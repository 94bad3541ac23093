/-
  Workmeter — JSON values and their compact text.

  * `Json`: the values this library writes (no fractions, no booleans);
  * `Json.escape c`: how a character stands inside a quoted text: the quote, the
    backslash and the characters below the blank are escaped, every other
    character stands for itself;
  * `Json.render v`: the text of a value, without blanks, fields in the order
    of the value.
-/

namespace Workmeter

/-- The values this library writes. -/
inductive Json where
  | null
  | number (n : Nat)
  | text (s : String)
  | list (items : List Json)
  | record (fields : List (String × Json))

namespace Json

/-- The lower-case hexadecimal digit of a value below 16. -/
def hexDigit (n : Nat) : Char := Nat.digitChar n

/-- A character inside a quoted text. -/
def escape (c : Char) : List Char :=
  if c = '"' then ['\\', '"']
  else if c = '\\' then ['\\', '\\']
  else if c = '\x08' then ['\\', 'b']
  else if c = '\x0c' then ['\\', 'f']
  else if c = '\n' then ['\\', 'n']
  else if c = '\r' then ['\\', 'r']
  else if c = '\t' then ['\\', 't']
  else if c.toNat < 0x20 then
    ['\\', 'u', '0', '0', hexDigit (c.toNat / 16), hexDigit (c.toNat % 16)]
  else [c]

/-- A quoted text. -/
def quote (s : List Char) : List Char := '"' :: s.flatMap escape ++ ['"']

/-- A number in decimal. -/
def decimal (n : Nat) : List Char := Nat.toDigits 10 n

mutual

/-- The compact text of a value. -/
def render : Json → List Char
  | null => ['n', 'u', 'l', 'l']
  | number n => decimal n
  | text s => quote s.toList
  | list [] => ['[', ']']
  | list (v :: vs) => '[' :: render v ++ renderItems vs ++ [']']
  | record [] => ['\x7b', '\x7d']
  | record ((k, v) :: fs) =>
    '\x7b' :: quote k.toList ++ ':' :: render v ++ renderFields fs ++ ['\x7d']

/-- The items after the first, each behind a comma. -/
def renderItems : List Json → List Char
  | [] => []
  | v :: vs => ',' :: render v ++ renderItems vs

/-- The fields after the first, each behind a comma. -/
def renderFields : List (String × Json) → List Char
  | [] => []
  | (k, v) :: fs => ',' :: quote k.toList ++ ':' :: render v ++ renderFields fs

end

/-- The compact text of a value, as a string. -/
def compact (v : Json) : String := String.ofList v.render

theorem blank_le_hexDigit : ∀ n < 16, 0x20 ≤ (hexDigit n).toNat := by decide

/-- What stands for a character inside a quoted text is never below the blank. -/
theorem blank_le_of_mem_escape {c d : Char} (h : d ∈ escape c) : 0x20 ≤ d.toNat := by
  unfold escape at h
  repeat' split at h
  all_goals simp only [List.mem_cons, List.not_mem_nil, or_false] at h
  all_goals try (rcases h with rfl | rfl <;> decide)
  · rcases h with rfl | rfl | rfl | rfl | rfl | rfl
    any_goals decide
    · exact blank_le_hexDigit _ (by omega)
    · exact blank_le_hexDigit _ (by omega)
  · subst h; omega

end Json

end Workmeter
