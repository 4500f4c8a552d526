/-!
Keys of a terminal, and which of them the characters are that a terminal sends.
-/

namespace Counsel.Screen

/-- A key that was pressed. `ctrl` tells whether the control key was held with a character. -/
inductive Key where
  | enter
  | tab
  | backspace
  | delete
  | escape
  | up
  | down
  | char (c : Char) ( ctrl : Bool)
  | other
  deriving DecidableEq, Repr

namespace Key

/-- A letter typed with the control key held. Two letters of these are keys of their own. -/
def control (c : Char) : Key :=
  match c.toLower with
  | 'i' => .tab
  | 'm' => .enter
  | c => .char c true

/-- The key whose character is typed; the controls are letters typed with the control key held,
but for four that have keys of their own. -/
def typed (c : Char) : Key :=
  let n := c.toNat
  if n = 0x1b then .escape
  else if n = 0x7f then .backspace
  else if n = 0 then .char ' ' true
  else if n ≤ 0x1a then control (.ofNat (n + 0x60))
  else if n < 0x20 then .char (.ofNat (n + 0x18)) true
  else .char c false

end Key
end Counsel.Screen
