import Counsel.Proofs.Text.Blank
import Counsel.Session.Title

/-!
What titles look like.

`Title.Previews` is how a title shows the message it is made from: all of it where it is short, and
otherwise as many characters as a title has room for, with one mark that more follows. Characters
are counted, so the bound holds of every text whatever its script (`Previews.length_le`).

* `ofMessages_cases`: a session about to be saved is called after its tool, or shows the first
  message of the user.
* `not_blank_ofMessages`, `not_blank_ofWish`: no title is blank, neither the one that is made from a
  conversation nor the one that a user wishes for.
-/

namespace Counsel

open Text (Blank)

theorem Tool.not_blank_label (tool : Tool) : ¬ Blank tool.label := by
  cases tool <;> decide

namespace Title

/-- A title shows a text: the whole text without the blanks around it if that has at most
`previewLength` characters, and otherwise its first ones and one ellipsis. -/
def Previews (text title : String) : Prop :=
  ((Text.trim text).length ≤ previewLength ∧ title = Text.trim text) ∨
    (previewLength < (Text.trim text).length ∧
      title.toList = (Text.trim text).toList.take previewLength ++ [ellipsis])

variable {text title : String}

theorem previews_preview (text : String) : Previews text (preview text) := by
  have whole : (Text.trim text).toList = Text.trimChars text.toList := String.toList_ofList
  have size : (Text.trim text).length = (Text.trimChars text.toList).length := by
    rw [← String.length_toList, whole]
  by_cases long : previewLength < (Text.trimChars text.toList).length
  · refine Or.inr ⟨by rwa [size], ?_⟩
    simp only [whole, preview, if_pos long, String.toList_ofList]
  · refine Or.inl ⟨by rw [size]; exact Nat.le_of_not_lt long, ?_⟩
    simp only [preview, if_neg long]
    rfl

/-- A title has room for the mark beside the characters that it shows. -/
theorem Previews.length_le (shows : Previews text title) : title.length ≤ previewLength + 1 := by
  rcases shows with ⟨short, rfl⟩ | ⟨-, cut⟩
  · exact Nat.le_succ_of_le short
  · rw [← String.length_toList, cut, List.length_append, List.length_take]
    exact Nat.succ_le_succ (Nat.min_le_left _ _)

/-- What shows a text that is not blank is not blank: a cut title ends with the mark. -/
theorem Previews.not_blank (shows : Previews text title) (words : ¬ Blank text) :
    ¬ Blank title := by
  rcases shows with ⟨-, rfl⟩ | ⟨-, cut⟩
  · rw [← Text.trim_eq_empty, Text.trim_trim]
    exact mt Text.trim_eq_empty.mp words
  · intro blank
    have marked : ellipsis ∈ title.toList := by simp [cut]
    cases blank ellipsis marked

variable {tool : Tool} {messages : List Message} {earlier : Bool}

/-- A session is called after its tool, or shows the first message of the user. -/
theorem ofMessages_cases (tool : Tool) (messages : List Message) (earlier : Bool) :
    ofMessages tool messages earlier = tool.label ∨
      ∃ first, messages.find? (·.role = .user) = some first ∧
        Previews first.text (ofMessages tool messages earlier) := by
  cases earlier with
  | false => exact Or.inl rfl
  | true =>
      simp only [ofMessages, if_true]
      cases found : messages.find? (·.role = .user) with
      | none => exact Or.inl rfl
      | some first => exact Or.inr ⟨first, rfl, previews_preview first.text⟩

theorem not_blank_ofMessages (words : ∀ m ∈ messages, m.role = .user → ¬ Blank m.text) :
    ¬ Blank (ofMessages tool messages earlier) := by
  rcases ofMessages_cases tool messages earlier with label | ⟨first, found, shows⟩
  · rw [label]
    exact tool.not_blank_label
  · refine shows.not_blank (words first (List.mem_of_find?_eq_some found) ?_)
    simpa using List.find?_some found

theorem not_blank_ofWish (wish : String) : ¬ Blank (ofWish wish) := by
  unfold ofWish
  split
  · decide
  · rename_i words
    rwa [← Text.trim_eq_empty, Text.trim_trim]

end Title
end Counsel
