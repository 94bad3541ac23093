/-
  Workmeter — the text of a JSON value tells the value.

  A text ends where it ends, whatever is written behind it: a quoted text at its closing
  quote, since a quote inside is escaped, a list or a record at its closing bracket, and
  a number at the first character that is no digit.  So two values never have the same
  text, be they part of a larger text or not.

  * `Json.induction`: what holds of a value whenever it holds of its items and fields
    holds of all values;
  * `blank_le_of_mem_render`: no character of a text is below the blank;
  * `unescape`: the character that an escaped text starts with (`unescape_escape`);
  * `quote_append_inj`, `decimal_append_inj`: quoted texts and numbers end where they end;
  * `render_append_inj`: so do all values (`compact_injective`);
  * `Stands`, `Quoted`, `listText`, `recordText`: the texts described in themselves, which
    are those that are written (`stands_iff`, `quoted_iff`, `compact_list`, `compact_record`).
-/
import Mathlib.Data.List.Forall2
import Workmeter.Text.Json

namespace Workmeter.Json

/-- **Induction over values**: the items of a list and the fields of a record may be
    assumed. -/
@[elab_as_elim, induction_eliminator]
theorem induction {motive : Json → Prop} (null : motive .null) (number : ∀ n, motive (.number n))
    (text : ∀ s, motive (.text s)) (list : ∀ items, (∀ v ∈ items, motive v) → motive (.list items))
    (record : ∀ fields, (∀ e ∈ fields, motive e.2) → motive (.record fields)) (v : Json) :
    motive v :=
  match v with
  | .null => null
  | .number n => number n
  | .text s => text s
  | .list items => list items fun v _ => induction null number text list record v
  | .record fields => record fields fun e _ => induction null number text list record e.2
termination_by sizeOf v
decreasing_by
  · have := List.sizeOf_lt_of_mem ‹_ ∈ items›
    simp only [Json.list.sizeOf_spec]; omega
  · obtain ⟨key, v⟩ := e
    have := List.sizeOf_lt_of_mem ‹_ ∈ fields›
    simp only [Json.record.sizeOf_spec, Prod.mk.sizeOf_spec] at this ⊢; omega

/-! ## No character below the blank -/

theorem blank_le_of_mem_quote {s : List Char} {c : Char} (hc : c ∈ quote s) : 0x20 ≤ c.toNat := by
  simp only [quote, List.cons_append, List.mem_cons, List.mem_append, List.mem_flatMap,
    List.not_mem_nil, or_false] at hc
  rcases hc with rfl | ⟨d, -, hd⟩ | rfl
  · decide
  · exact blank_le_of_mem_escape hd
  · decide

theorem isDigit_of_mem_decimal {n : Nat} {c : Char} (hc : c ∈ decimal n) : c.isDigit :=
  Nat.isDigit_of_mem_toDigits (by decide) (by decide) hc

theorem blank_le_of_isDigit {c : Char} (hc : c.isDigit) : 0x20 ≤ c.toNat := by
  simp only [Char.isDigit, Bool.and_eq_true, decide_eq_true_eq] at hc
  have : (48 : UInt32).toNat ≤ c.val.toNat := hc.1
  show 0x20 ≤ c.val.toNat
  exact Nat.le_trans (by decide) this

theorem blank_le_of_mem_renderItems {items : List Json}
    (hi : ∀ v ∈ items, ∀ c ∈ v.render, 0x20 ≤ c.toNat) {c : Char} (hc : c ∈ renderItems items) :
    0x20 ≤ c.toNat := by
  induction items with
  | nil => cases hc
  | cons v items ih =>
    simp only [renderItems, List.cons_append, List.mem_cons, List.mem_append] at hc
    rcases hc with rfl | hc | hc
    · decide
    · exact hi v (by simp) c hc
    · exact ih (fun w hw => hi w (by simp [hw])) hc

theorem blank_le_of_mem_renderFields {fields : List (String × Json)}
    (hf : ∀ e ∈ fields, ∀ c ∈ e.2.render, 0x20 ≤ c.toNat) {c : Char}
    (hc : c ∈ renderFields fields) : 0x20 ≤ c.toNat := by
  induction fields with
  | nil => cases hc
  | cons e fields ih =>
    obtain ⟨key, v⟩ := e
    simp only [renderFields, List.cons_append, List.append_assoc, List.mem_cons,
      List.mem_append] at hc
    rcases hc with rfl | hc | rfl | hc | hc
    · decide
    · exact blank_le_of_mem_quote hc
    · decide
    · exact hf (key, v) (by simp) c hc
    · exact ih (fun e he => hf e (by simp [he])) hc

/-- **No character of a text** is below the blank. -/
theorem blank_le_of_mem_render {v : Json} : ∀ {c : Char}, c ∈ v.render → 0x20 ≤ c.toNat := by
  induction v with
  | null =>
    intro c hc
    simp only [render, List.mem_cons, List.not_mem_nil, or_false] at hc
    rcases hc with rfl | rfl | rfl | rfl <;> decide
  | number n => exact fun hc => blank_le_of_isDigit (isDigit_of_mem_decimal hc)
  | text s => exact blank_le_of_mem_quote
  | list items ih =>
    intro c hc
    cases items with
    | nil =>
      simp only [render, List.mem_cons, List.not_mem_nil, or_false] at hc
      rcases hc with rfl | rfl <;> decide
    | cons v items =>
      simp only [render, List.cons_append, List.append_assoc, List.mem_cons, List.mem_append,
        List.not_mem_nil, or_false] at hc
      rcases hc with rfl | hc | hc | rfl
      · decide
      · exact ih v (by simp) hc
      · exact blank_le_of_mem_renderItems (fun w hw c => ih w (by simp [hw])) hc
      · decide
  | record fields ih =>
    intro c hc
    cases fields with
    | nil =>
      simp only [render, List.mem_cons, List.not_mem_nil, or_false] at hc
      rcases hc with rfl | rfl <;> decide
    | cons e fields =>
      obtain ⟨key, v⟩ := e
      simp only [render, List.cons_append, List.append_assoc, List.mem_cons, List.mem_append,
        List.not_mem_nil, or_false] at hc
      rcases hc with rfl | hc | rfl | hc | hc | rfl
      · decide
      · exact blank_le_of_mem_quote hc
      · decide
      · exact ih (key, v) (by simp) hc
      · exact blank_le_of_mem_renderFields (fun e he c => ih e (by simp [he])) hc
      · decide

/-! ## Quoted texts -/

/-- What a character behind a backslash stands for, unless it is followed by digits. -/
def shortForms : List (Char × Char) :=
  [('"', '"'), ('\\', '\\'), ('b', '\x08'), ('f', '\x0c'), ('n', '\n'), ('r', '\r'), ('t', '\t')]

/-- The value of a lower-case hexadecimal digit. -/
def hexValue (c : Char) : Nat := if c.isDigit then c.toNat - 48 else c.toNat - 87

theorem hexValue_hexDigit : ∀ n < 16, hexValue (hexDigit n) = n := by decide

/-- The character that an escaped text starts with, and the rest of the text. -/
def unescape : List Char → Option (Char × List Char)
  | '\\' :: 'u' :: _ :: _ :: high :: low :: cs =>
    some (Char.ofNat (16 * hexValue high + hexValue low), cs)
  | '\\' :: c :: cs => (shortForms.lookup c).map (·, cs)
  | c :: cs => some (c, cs)
  | [] => none

/-- **An escaped character** is told from the text it starts. -/
theorem unescape_escape (c : Char) (cs : List Char) : unescape (escape c ++ cs) = some (c, cs) := by
  unfold escape
  split_ifs with hquote hslash _ _ _ _ _ hlow
  any_goals subst_vars; rfl
  · have hhigh := hexValue_hexDigit (c.toNat / 16) (by omega)
    have hrest := hexValue_hexDigit (c.toNat % 16) (by omega)
    have hsum : 16 * (c.toNat / 16) + c.toNat % 16 = c.toNat := by omega
    simp only [List.cons_append, List.nil_append, unescape, hhigh, hrest, hsum, Char.ofNat_toNat]
  · rw [List.singleton_append, unescape.eq_def]
    split <;> simp_all

theorem head?_escape_ne (c : Char) : (escape c).head? ≠ some '"' := by
  unfold escape
  split_ifs <;> simp_all

theorem escape_append_ne (c : Char) (x y : List Char) : escape c ++ x ≠ '"' :: y := by
  intro h
  have hhead := congrArg List.head? h
  have hc := head?_escape_ne c
  cases he : escape c with
  | nil => have := unescape_escape c []; rw [he] at this; cases this
  | cons d ds => rw [he] at hhead hc; exact hc hhead

theorem flatMap_escape_append_inj {s t x y : List Char}
    (h : s.flatMap escape ++ '"' :: x = t.flatMap escape ++ '"' :: y) : s = t ∧ x = y := by
  induction s generalizing t with
  | nil =>
    cases t with
    | nil => exact ⟨rfl, (List.cons.inj h).2⟩
    | cons d t =>
      rw [List.flatMap_cons, List.append_assoc] at h
      exact absurd h.symm (escape_append_ne d _ _)
  | cons c s ih =>
    cases t with
    | nil =>
      rw [List.flatMap_cons, List.append_assoc] at h
      exact absurd h (escape_append_ne c _ _)
    | cons d t =>
      have hread := congrArg unescape h
      simp only [List.flatMap_cons, List.append_assoc, unescape_escape, Option.some.injEq,
        Prod.mk.injEq] at hread
      obtain ⟨rfl, hrest⟩ := hread
      obtain ⟨rfl, rfl⟩ := ih hrest
      exact ⟨rfl, rfl⟩

/-- **A quoted text** ends at its closing quote. -/
theorem quote_append_inj {s t x y : List Char} (h : quote s ++ x = quote t ++ y) :
    s = t ∧ x = y := by
  simp only [quote, List.cons_append, List.append_assoc, List.nil_append, List.cons.injEq,
    true_and] at h
  exact flatMap_escape_append_inj h

/-! ## Numbers -/

/-- The text does not go on with a digit. -/
def Stops (x : List Char) : Prop := ∀ c ∈ x.head?, c.isDigit = false

theorem stops_cons {c : Char} (hc : c.isDigit = false) (x : List Char) : Stops (c :: x) := by
  rintro d ⟨⟩; exact hc

theorem takeWhile_decimal_append (n : Nat) {x : List Char} (hx : Stops x) :
    (decimal n ++ x).takeWhile Char.isDigit = decimal n := by
  have hnone : x.takeWhile Char.isDigit = [] := by
    cases x with
    | nil => rfl
    | cons c x => rw [List.takeWhile_cons, hx c rfl]; rfl
  rw [List.takeWhile_append_of_pos fun c => isDigit_of_mem_decimal, hnone, List.append_nil]

theorem decimal_injective {m n : Nat} (h : decimal m = decimal n) : m = n := by
  have hvalue := congrArg (Nat.ofDigitChars 10 · 0) h
  simpa only [decimal, Nat.ofDigitChars_ten_toDigits] using hvalue

/-- **A number** ends before the first character that is no digit. -/
theorem decimal_append_inj {m n : Nat} {x y : List Char} (hx : Stops x) (hy : Stops y)
    (h : decimal m ++ x = decimal n ++ y) : m = n ∧ x = y := by
  have hdigits := congrArg (List.takeWhile Char.isDigit) h
  rw [takeWhile_decimal_append m hx, takeWhile_decimal_append n hy] at hdigits
  rw [hdigits] at h
  exact ⟨decimal_injective hdigits, List.append_cancel_left h⟩

/-! ## Values -/

/-- The kinds of values. -/
inductive Kind where
  | null
  | number
  | text
  | list
  | record

/-- The kind of a value. -/
def kind : Json → Kind
  | null => .null
  | number _ => .number
  | text _ => .text
  | list _ => .list
  | record _ => .record

/-- The kind of value that a text with this first character is. -/
def kindOf (c : Char) : Option Kind :=
  if c.isDigit then some .number
  else [('n', Kind.null), ('"', .text), ('[', .list), ('\x7b', .record)].lookup c

theorem kindOf_render (v : Json) : v.render.head?.bind kindOf = some v.kind := by
  cases v with
  | number n =>
    cases hd : decimal n with
    | nil => exact absurd hd Nat.toDigits_ne_nil
    | cons c cs =>
      have hc : c.isDigit := isDigit_of_mem_decimal (by rw [hd]; simp)
      simp [render, hd, kindOf, hc, kind]
  | null | text => rfl
  | list items => cases items <;> rfl
  | record fields => cases fields <;> rfl

theorem kind_eq_of_append {v w : Json} {x y : List Char} (h : v.render ++ x = w.render ++ y) :
    v.kind = w.kind := by
  have hfirst : ∀ (u : Json) (z : List Char), (u.render ++ z).head?.bind kindOf = some u.kind := by
    intro u z
    have hu := kindOf_render u
    rw [List.head?_append]
    cases hc : u.render.head? with
    | none => rw [hc] at hu; cases hu
    | some c => rw [hc] at hu; exact hu
  have hkinds := congrArg (fun z => z.head?.bind kindOf) h
  simp only [hfirst, Option.some.injEq] at hkinds
  exact hkinds

/-- No value starts with the bracket that closes a list. -/
theorem render_append_ne (v : Json) (x y : List Char) : v.render ++ x ≠ ']' :: y := by
  intro h
  have hv := kindOf_render v
  cases hr : v.render with
  | nil => rw [hr] at hv; cases hv
  | cons c cs =>
    rw [hr] at h hv
    obtain ⟨rfl, -⟩ := List.cons.inj h
    cases hv

/-- The text of the value ends where it ends, if no digit follows. -/
def Ends (v : Json) : Prop :=
  ∀ {w : Json} {x y : List Char}, Stops x → Stops y → v.render ++ x = w.render ++ y → v = w ∧ x = y

theorem stops_renderItems (items : List Json) (x : List Char) :
    Stops (renderItems items ++ ']' :: x) := by
  cases items <;> exact stops_cons rfl _

theorem stops_renderFields (fields : List (String × Json)) (x : List Char) :
    Stops (renderFields fields ++ '\x7d' :: x) := by
  cases fields <;> exact stops_cons rfl _

theorem renderItems_append_inj {items : List Json} (hi : ∀ v ∈ items, v.Ends) {others : List Json}
    {x y : List Char} (h : renderItems items ++ ']' :: x = renderItems others ++ ']' :: y) :
    items = others ∧ x = y := by
  induction items generalizing others with
  | nil =>
    cases others with
    | nil => exact ⟨rfl, (List.cons.inj h).2⟩
    | cons w others => cases (List.cons.inj h).1
  | cons v items ih =>
    cases others with
    | nil => cases (List.cons.inj h).1
    | cons w others =>
      simp only [renderItems, List.cons_append, List.append_assoc, List.cons.injEq, true_and] at h
      obtain ⟨rfl, hrest⟩ := hi v (by simp) (stops_renderItems _ _) (stops_renderItems _ _) h
      obtain ⟨rfl, rfl⟩ := ih (fun u hu => hi u (by simp [hu])) hrest
      exact ⟨rfl, rfl⟩

theorem renderFields_append_inj {fields : List (String × Json)} (hf : ∀ e ∈ fields, e.2.Ends)
    {others : List (String × Json)} {x y : List Char}
    (h : renderFields fields ++ '\x7d' :: x = renderFields others ++ '\x7d' :: y) :
    fields = others ∧ x = y := by
  induction fields generalizing others with
  | nil =>
    cases others with
    | nil => exact ⟨rfl, (List.cons.inj h).2⟩
    | cons w others => cases (List.cons.inj h).1
  | cons e fields ih =>
    obtain ⟨key, v⟩ := e
    cases others with
    | nil => cases (List.cons.inj h).1
    | cons e' others =>
      obtain ⟨key', w⟩ := e'
      simp only [renderFields, List.cons_append, List.append_assoc, List.cons.injEq, true_and] at h
      obtain ⟨hkey, hvalue⟩ := quote_append_inj h
      obtain rfl : key = key' := String.toList_inj.1 hkey
      obtain ⟨rfl, hrest⟩ := hf (key, v) (by simp) (stops_renderFields _ _) (stops_renderFields _ _)
        (List.cons.inj hvalue).2
      obtain ⟨rfl, rfl⟩ := ih (fun e he => hf e (by simp [he])) hrest
      exact ⟨rfl, rfl⟩

/-- A list ends at its closing bracket. -/
theorem render_list_append_inj {items others : List Json} (hi : ∀ v ∈ items, v.Ends)
    {x y : List Char} (h : (list items).render ++ x = (list others).render ++ y) :
    items = others ∧ x = y := by
  -- behind the bracket that opens it, a list is its items with the first comma left out
  have hopen : ∀ (v : Json) (vs : List Json) (z : List Char),
      ',' :: ((list (v :: vs)).render ++ z).tail = renderItems (v :: vs) ++ ']' :: z := by
    intro v vs z
    simp [render, renderItems]
  cases items with
  | nil =>
    cases others with
    | nil => exact ⟨rfl, List.append_cancel_left h⟩
    | cons w others =>
      simp only [render, List.cons_append, List.append_assoc, List.cons.injEq, true_and] at h
      exact absurd h.symm (render_append_ne w _ _)
  | cons v items =>
    cases others with
    | nil =>
      simp only [render, List.cons_append, List.append_assoc, List.cons.injEq, true_and] at h
      exact absurd h (render_append_ne v _ _)
    | cons w others =>
      exact renderItems_append_inj hi (by rw [← hopen, ← hopen, h])

/-- A record ends at its closing bracket. -/
theorem render_record_append_inj {fields others : List (String × Json)}
    (hf : ∀ e ∈ fields, e.2.Ends) {x y : List Char}
    (h : (record fields).render ++ x = (record others).render ++ y) :
    fields = others ∧ x = y := by
  have hopen : ∀ (e : String × Json) (es : List (String × Json)) (z : List Char),
      ',' :: ((record (e :: es)).render ++ z).tail = renderFields (e :: es) ++ '\x7d' :: z := by
    rintro ⟨key, v⟩ es z
    simp [render, renderFields]
  cases fields with
  | nil =>
    cases others with
    | nil => exact ⟨rfl, List.append_cancel_left h⟩
    | cons e others => exact absurd (congrArg (·[1]?) h) (by simp [render, quote])
  | cons e fields =>
    cases others with
    | nil => exact absurd (congrArg (·[1]?) h) (by simp [render, quote])
    | cons e' others =>
      exact renderFields_append_inj hf (by rw [← hopen, ← hopen, h])

/-- **The text of a value** ends where it ends. -/
theorem render_append_inj (v : Json) : v.Ends := by
  induction v with
  | null =>
    intro w x y hx hy h
    have hkind := kind_eq_of_append h
    cases w with
    | null => exact ⟨rfl, List.append_cancel_left h⟩
    | number | text | list | record => cases hkind
  | number n =>
    intro w x y hx hy h
    have hkind := kind_eq_of_append h
    cases w with
    | number m =>
      obtain ⟨rfl, rfl⟩ := decimal_append_inj hx hy h
      exact ⟨rfl, rfl⟩
    | null | text | list | record => cases hkind
  | text s =>
    intro w x y hx hy h
    have hkind := kind_eq_of_append h
    cases w with
    | text t =>
      obtain ⟨hs, rfl⟩ := quote_append_inj h
      exact ⟨by rw [String.toList_inj.1 hs], rfl⟩
    | null | number | list | record => cases hkind
  | list items ih =>
    intro w x y hx hy h
    have hkind := kind_eq_of_append h
    cases w with
    | list others =>
      obtain ⟨rfl, rfl⟩ := render_list_append_inj ih h
      exact ⟨rfl, rfl⟩
    | null | number | text | record => cases hkind
  | record fields ih =>
    intro w x y hx hy h
    have hkind := kind_eq_of_append h
    cases w with
    | record others =>
      obtain ⟨rfl, rfl⟩ := render_record_append_inj ih h
      exact ⟨rfl, rfl⟩
    | null | number | text | list => cases hkind

theorem toList_compact (v : Json) : v.compact.toList = v.render := String.toList_ofList

/-- **Two values never have the same text.** -/
theorem compact_injective : Function.Injective compact := by
  intro v w h
  have hrender : v.render ++ [] = w.render ++ [] := by
    rw [← toList_compact v, ← toList_compact w, h]
  exact (render_append_inj v (by rintro c ⟨⟩) (by rintro c ⟨⟩) hrender).1

/-! ## The texts in themselves -/

/-- What stands for a character in a quoted text. -/
inductive Stands (c : Char) : String → Prop where
  | short {letter : Char} : (letter, c) ∈ shortForms → Stands c (String.ofList ['\\', letter])
  | code : c.toNat < 0x20 → (∀ letter, (letter, c) ∉ shortForms) →
      Stands c ("\\u00" ++
        String.ofList [Nat.digitChar (c.toNat / 16), Nat.digitChar (c.toNat % 16)])
  | itself : 0x20 ≤ c.toNat → (∀ letter, (letter, c) ∉ shortForms) → Stands c (String.singleton c)

/-- The text `t` is `s` in quotes. -/
def Quoted (s t : String) : Prop :=
  ∃ parts, List.Forall₂ Stands s.toList parts ∧ t = "\"" ++ String.join parts ++ "\""

/-- These texts as the items of a list. -/
def listText (items : List String) : String := "[" ++ ",".intercalate items ++ "]"

/-- These texts as the values of the fields of a record. -/
def recordText (fields : List (String × String)) : String :=
  "\x7b" ++ ",".intercalate (fields.map fun f => "\"" ++ f.1 ++ "\":" ++ f.2) ++ "\x7d"

theorem escape_of_short {letter c : Char} (h : (letter, c) ∈ shortForms) :
    escape c = ['\\', letter] := by
  simp only [shortForms, List.mem_cons, List.not_mem_nil, or_false, Prod.mk.injEq] at h
  rcases h with ⟨rfl, rfl⟩ | ⟨rfl, rfl⟩ | ⟨rfl, rfl⟩ | ⟨rfl, rfl⟩ | ⟨rfl, rfl⟩ | ⟨rfl, rfl⟩ |
    ⟨rfl, rfl⟩ <;> rfl

theorem escape_of_not_short {c : Char} (h : ∀ letter, (letter, c) ∉ shortForms) :
    escape c =
      if c.toNat < 0x20 then
        ['\\', 'u', '0', '0', hexDigit (c.toNat / 16), hexDigit (c.toNat % 16)]
      else [c] := by
  unfold escape
  split_ifs
  any_goals rfl
  all_goals
    subst_vars
    simp [shortForms] at h

theorem Stands.toList_eq {c : Char} {t : String} (h : Stands c t) : t.toList = escape c := by
  cases h with
  | short hshort => rw [escape_of_short hshort, String.toList_ofList]
  | code hlow hlong =>
    rw [escape_of_not_short hlong, if_pos hlow, String.toList_append, String.toList_ofList]
    simp [hexDigit]
  | itself hhigh hlong =>
    rw [escape_of_not_short hlong, if_neg (by omega), String.toList_singleton]

theorem exists_stands (c : Char) : ∃ t, Stands c t := by
  by_cases hshort : ∃ letter, (letter, c) ∈ shortForms
  · exact ⟨_, .short hshort.choose_spec⟩
  · have hlong : ∀ letter, (letter, c) ∉ shortForms := fun letter h => hshort ⟨letter, h⟩
    by_cases hlow : c.toNat < 0x20
    · exact ⟨_, .code hlow hlong⟩
    · exact ⟨_, .itself (Nat.not_lt.1 hlow) hlong⟩

/-- **What stands for a character** is what is written for it. -/
theorem stands_iff {c : Char} {t : String} : Stands c t ↔ t.toList = escape c := by
  refine ⟨Stands.toList_eq, fun ht => ?_⟩
  obtain ⟨u, hu⟩ := exists_stands c
  rwa [String.toList_inj.1 (ht.trans hu.toList_eq.symm)]

theorem forall₂_stands_iff {cs : List Char} {parts : List String} :
    List.Forall₂ Stands cs parts ↔ cs.map escape = parts.map String.toList := by
  have hstands : Stands = fun c t => escape c = t.toList :=
    funext₂ fun c t => propext (stands_iff.trans eq_comm)
  rw [← List.forall₂_eq_eq_eq, List.forall₂_map_left_iff, List.forall₂_map_right_iff, hstands]

/-- **A text in quotes** is what is written for it. -/
theorem quoted_iff {s t : String} : Quoted s t ↔ t = (text s).compact := by
  have hjoin : ∀ {parts : List String}, s.toList.map escape = parts.map String.toList →
      "\"" ++ String.join parts ++ "\"" = (text s).compact := by
    intro parts hparts
    apply String.toList_inj.1
    have hflat : parts.flatMap String.toList = s.toList.flatMap escape := by
      rw [List.flatMap_def, List.flatMap_def, hparts]
    rw [toList_compact, String.toList_append, String.toList_append, String.toList_join, hflat]
    rfl
  constructor
  · rintro ⟨parts, hparts, rfl⟩
    exact hjoin (forall₂_stands_iff.1 hparts)
  · rintro rfl
    have hparts : s.toList.map escape =
        (s.toList.map (String.ofList ∘ escape)).map String.toList := by
      rw [List.map_map]
      exact List.map_congr_left fun c _ => String.toList_ofList.symm
    exact ⟨_, forall₂_stands_iff.2 hparts, (hjoin hparts).symm⟩

theorem intercalate_cons_eq {α : Type} (sep x : List α) (xs : List (List α)) :
    sep.intercalate (x :: xs) = x ++ xs.flatMap (sep ++ ·) := by
  induction xs generalizing x with
  | nil => simp [List.intercalate]
  | cons y ys ih =>
    rw [List.intercalate_cons_cons, ih, List.flatMap_cons, List.append_assoc, List.append_assoc]

theorem renderItems_eq (items : List Json) :
    renderItems items = items.flatMap fun v => [','] ++ v.render := by
  induction items with
  | nil => rfl
  | cons v items ih => rw [renderItems, ih]; rfl

theorem renderFields_eq (fields : List (String × Json)) :
    renderFields fields =
      fields.flatMap fun f => [','] ++ (quote f.1.toList ++ ':' :: f.2.render) := by
  induction fields with
  | nil => rfl
  | cons f fields ih => rw [renderFields, ih]; simp

/-- **A list** is its items. -/
theorem compact_list (items : List Json) :
    (list items).compact = listText (items.map compact) := by
  apply String.toList_inj.1
  rw [toList_compact, listText, String.toList_append, String.toList_append,
    String.toList_intercalate, List.map_map]
  cases items with
  | nil => rfl
  | cons v items =>
    rw [render, renderItems_eq, List.map_cons, intercalate_cons_eq, List.flatMap_map]
    simp [toList_compact]

/-- A name needs no escapes. -/
def isPlain (name : String) : Bool := quote name.toList = '"' :: name.toList ++ ['"']

/-- **A record** is its fields, if their names need no escapes. -/
theorem compact_record {fields : List (String × Json)} (hplain : fields.all (isPlain ·.1)) :
    (record fields).compact = recordText (fields.map fun f => (f.1, f.2.compact)) := by
  apply String.toList_inj.1
  rw [toList_compact, recordText, String.toList_append, String.toList_append,
    String.toList_intercalate, List.map_map, List.map_map]
  cases fields with
  | nil => rfl
  | cons f fields =>
    have hname : ∀ g ∈ f :: fields, quote g.1.toList = '"' :: g.1.toList ++ ['"'] :=
      fun g hg => of_decide_eq_true (List.all_eq_true.1 hplain g hg)
    have hrest : renderFields fields = fields.flatMap fun f =>
        [','] ++ (("\"" ++ f.1 ++ "\":").toList ++ f.2.render) := by
      rw [renderFields_eq]
      refine List.flatMap_congr fun g hg => ?_
      rw [hname g (by simp [hg])]
      simp
    obtain ⟨key, v⟩ := f
    rw [render, hrest, List.map_cons, intercalate_cons_eq, List.flatMap_map,
      show quote key.toList = _ from hname (key, v) (by simp)]
    simp [toList_compact]

end Workmeter.Json
