import JooEvents.Lib.JsonValue

/-!
# Reading JSON texts

`JsonValue.parse` is `JSON.parse` for texts whose strings are well formed and whose
numbers are decimals : white space between the tokens, every escape, and the grammar of
number literals. An object whose text repeats a name keeps the last member of that name.

Reading takes fuel, one unit for every value, item and member, and a text has enough of
it in its own length. A proper value is read back from its text (`parse_stringify`), so
its text determines it (`stringify_injOn_proper`).
-/

namespace JsonValue

open Json (quoteMark backslash)

/-- White space of the grammar. -/
def isSpace (c : Char) : Bool := [9, 10, 13, 32].contains c.val.toNat

/-- The text after its white space. -/
def skipSpace (s : List Char) : List Char := s.dropWhile isSpace

/-- The value of a hexadecimal digit. -/
def hexDigit (c : Char) : Option ℕ :=
  if c.isDigit then some (c.val.toNat - 48)
  else if 97 ≤ c.val.toNat ∧ c.val.toNat ≤ 102 then some (c.val.toNat - 87)
  else if 65 ≤ c.val.toNat ∧ c.val.toNat ≤ 70 then some (c.val.toNat - 55)
  else none

/-- The code unit that four hexadecimal digits write. -/
def readUnit : List Char → Option (ℕ × List Char)
  | a :: b :: c :: d :: s => do
    let a ← hexDigit a
    let b ← hexDigit b
    let c ← hexDigit c
    let d ← hexDigit d
    return (((a * 16 + b) * 16 + c) * 16 + d, s)
  | _ => none

/-- The character that a code unit begins : it stands alone, or a second unit follows
the first half of a pair. -/
def readPair (u : ℕ) (s : List Char) : Option (Char × List Char) :=
  if u < 0xD800 ∨ 0xDFFF < u then some (Char.ofNat u, s)
  else if u ≤ 0xDBFF ∧ s.take 2 = [backslash, 'u'] then do
    let (v, s) ← readUnit (s.drop 2)
    if 0xDC00 ≤ v ∧ v ≤ 0xDFFF then
      return (Char.ofNat (0x10000 + (u - 0xD800) * 0x400 + (v - 0xDC00)), s)
    else none
  else none

/-- The characters that a letter after a backslash stands for. -/
def escapes : List (Char × Char) :=
  [(quoteMark, quoteMark), (backslash, backslash), ('/', '/'), ('b', Char.ofNat 8),
    ('t', Char.ofNat 9), ('n', Char.ofNat 10), ('f', Char.ofNat 12), ('r', Char.ofNat 13)]

/-- A character of a string. -/
def readChar : List Char → Option (Char × List Char)
  | [] => none
  | c :: s =>
    if c = backslash then
      match s with
      | [] => none
      | letter :: s =>
        if letter = 'u' then (readUnit s).bind fun (u, s) => readPair u s
        else (escapes.lookup letter).map fun d => (d, s)
    else if c.val.toNat < 32 then none
    else some (c, s)

/-- The characters of a string up to its closing mark. -/
def readChars : ℕ → List Char → Option (List Char × List Char)
  | 0, _ => none
  | _ + 1, [] => none
  | n + 1, c :: s =>
    if c = quoteMark then some ([], s)
    else do
      let (d, s) ← readChar (c :: s)
      let (ds, s) ← readChars n s
      return (d :: ds, s)

/-- A string after its opening mark. -/
def readString (s : List Char) : Option (String × List Char) :=
  (readChars (s.length + 1) s).map fun (ds, s) => (String.ofList ds, s)

/-- A literal name. -/
def readWord (word : String) (a : JsonValue) (s : List Char) : Option (JsonValue × List Char) :=
  if word.toList <+: s then some (a, s.drop word.toList.length) else none

mutual

/-- A value. -/
def readValue : ℕ → List Char → Option (JsonValue × List Char)
  | 0, _ => none
  | n + 1, s =>
    match skipSpace s with
    | [] => none
    | c :: s =>
      if c = quoteMark then (readString s).map fun (t, s) => (.str t, s)
      else if c = '[' then
        match skipSpace s with
        | ']' :: s => some (.arr [], s)
        | s => (readItems n s).map fun (as, s) => (.arr as, s)
      else if c = '{' then
        match skipSpace s with
        | '}' :: s => some (.obj [], s)
        | s => (readMembers n s).map fun (as, s) => (.obj (fromEntries as), s)
      else if c = 'n' then readWord "ull" .null s
      else if c = 't' then readWord "rue" (.bool true) s
      else if c = 'f' then readWord "alse" (.bool false) s
      else (Decimal.read (c :: s)).map fun (d, s) => (.num d, s)

/-- The items of an array and the closing bracket. -/
def readItems : ℕ → List Char → Option (List JsonValue × List Char)
  | 0, _ => none
  | n + 1, s => do
    let (a, s) ← readValue n s
    match skipSpace s with
    | ']' :: s => return ([a], s)
    | ',' :: s =>
      let (as, s) ← readItems n s
      return (a :: as, s)
    | _ => none

/-- The members of an object and the closing bracket. -/
def readMembers : ℕ → List Char → Option (List (String × JsonValue) × List Char)
  | 0, _ => none
  | n + 1, s =>
    match skipSpace s with
    | [] => none
    | c :: s =>
      if c = quoteMark then do
        let (k, s) ← readString s
        match skipSpace s with
        | ':' :: s =>
          let (a, s) ← readValue n s
          match skipSpace s with
          | '}' :: s => return ([(k, a)], s)
          | ',' :: s =>
            let (as, s) ← readMembers n s
            return ((k, a) :: as, s)
          | _ => none
        | _ => none
      else none

end

/-- `JSON.parse`. -/
def parse (text : String) : Option JsonValue :=
  match readValue (text.toList.length + 1) text.toList with
  | some (a, s) => if skipSpace s = [] then some a else none
  | none => none

theorem hexDigit_digitChar : ∀ n < 16, hexDigit (Nat.digitChar n) = some n := by decide

/-- A character that is written as itself is no control character. -/
theorem not_lt_of_escapeChar {c : Char} (hc : Json.escapeChar c = [c]) : ¬ c.val.toNat < 32 := by
  intro hlt
  unfold Json.escapeChar at hc
  split at hc
  · cases hc
  · rw [if_pos hlt] at hc
    cases hc

theorem readChar_escapeChar (c : Char) (s : List Char) :
    readChar (Json.escapeChar c ++ s) = some (c, s) := by
  rcases Json.escapeChar_cases c with ⟨letter, hmem, hc⟩ | ⟨hlt, hc⟩ | ⟨-, hne, hc⟩
  · rw [hc]
    simp only [Json.shortEscapes, List.mem_cons, Prod.mk.injEq, List.not_mem_nil, or_false] at hmem
    rcases hmem with ⟨rfl, rfl⟩ | ⟨rfl, rfl⟩ | ⟨rfl, rfl⟩ | ⟨rfl, rfl⟩ | ⟨rfl, rfl⟩ | ⟨rfl, rfl⟩ |
      ⟨rfl, rfl⟩ <;> rfl
  · have hunit : readUnit ('0' :: '0' :: Nat.digitChar (c.val.toNat / 16) ::
        Nat.digitChar (c.val.toNat % 16) :: s) = some (c.val.toNat, s) := by
      have hzero : hexDigit '0' = some 0 := rfl
      simp only [readUnit, hzero, hexDigit_digitChar _ (show c.val.toNat / 16 < 16 by omega),
        hexDigit_digitChar _ (show c.val.toNat % 16 < 16 by omega), Option.bind_eq_bind,
        Option.bind_some, Option.pure_def, Option.some.injEq, Prod.mk.injEq, and_true]
      omega
    rw [hc]
    simp only [List.cons_append, List.nil_append, readChar, if_true, hunit, Option.bind_some,
      readPair]
    rw [if_pos (.inl (by omega))]
    simp
  · rw [hc, List.singleton_append]
    simp only [readChar, if_neg hne, if_neg (not_lt_of_escapeChar hc)]

/-- No escape begins with the closing mark. -/
theorem escapeChar_lead (c : Char) :
    ∃ d ds, Json.escapeChar c = d :: ds ∧ d ≠ quoteMark := by
  rcases Json.escapeChar_cases c with ⟨letter, -, hc⟩ | ⟨-, hc⟩ | ⟨hne, -, hc⟩
  · exact ⟨_, _, hc, by decide⟩
  · exact ⟨_, _, hc, by decide⟩
  · exact ⟨_, _, hc, hne⟩

theorem readChars_flatMap (s : List Char) : ∀ {cs : List Char} {n : ℕ}, cs.length < n →
    readChars n (cs.flatMap Json.escapeChar ++ quoteMark :: s) = some (cs, s)
  | [], 0, h => absurd h (by simp)
  | [], n + 1, _ => rfl
  | c :: cs, 0, h => absurd h (by simp)
  | c :: cs, n + 1, h => by
    have hrest := @readChars_flatMap s cs n (by simpa using h)
    have hchar := readChar_escapeChar c (cs.flatMap Json.escapeChar ++ quoteMark :: s)
    obtain ⟨d, ds, hd, hne⟩ := escapeChar_lead c
    rw [List.flatMap_cons, List.append_assoc]
    rw [hd, List.cons_append] at hchar ⊢
    simp only [readChars, if_neg hne, hchar, hrest, Option.bind_eq_bind, Option.bind_some,
      Option.pure_def]

theorem length_le_length_flatMap : ∀ cs : List Char,
    cs.length ≤ (cs.flatMap Json.escapeChar).length
  | [] => Nat.le_refl _
  | c :: cs => by
    obtain ⟨d, ds, hd, -⟩ := escapeChar_lead c
    have ih := length_le_length_flatMap cs
    simp only [List.flatMap_cons, hd, List.length_append, List.length_cons]
    omega

theorem readString_quote (t : String) (s : List Char) :
    readString (t.toList.flatMap Json.escapeChar ++ quoteMark :: s) = some (t, s) := by
  have hlen := length_le_length_flatMap t.toList
  rw [readString, readChars_flatMap s (by
    simp only [List.length_append, List.length_cons]
    omega), Option.map_some]
  exact congrArg some (Prod.ext String.ofList_toList rfl)

/-! ## Reading values back -/

theorem skipSpace_cons {c : Char} {s : List Char} (hc : isSpace c = false) :
    skipSpace (c :: s) = c :: s := by
  rw [skipSpace, List.dropWhile_cons_of_neg (by simp [hc])]

/-- The characters that a number begins with begin nothing else. -/
theorem numberLead {c : Char} (hc : c = '-' ∨ c.isDigit = true) :
    isSpace c = false ∧ c ≠ ']' ∧ c ≠ quoteMark ∧ c ≠ '[' ∧ c ≠ '{' ∧ c ≠ 'n' ∧ c ≠ 't' ∧
      c ≠ 'f' := by
  refine ⟨?_, ?_, ?_, ?_, ?_, ?_, ?_, ?_⟩
  · cases hspace : isSpace c with
    | false => rfl
    | true =>
      simp only [isSpace, List.contains_iff_mem, List.mem_cons, List.not_mem_nil, or_false]
        at hspace
      rcases hc with rfl | hdigit
      · exact absurd hspace (by decide)
      · have hrange := Char.isDigit_iff_toNat.mp hdigit
        change 48 ≤ c.val.toNat ∧ c.val.toNat ≤ 57 at hrange
        omega
  all_goals
    rintro rfl
    exact absurd hc (by decide)

/-- The first character of a value is no white space and closes no array. -/
theorem stringify_lead (a : JsonValue) :
    ∃ c s, stringify a = c :: s ∧ isSpace c = false ∧ c ≠ ']' := by
  cases a with
  | null => exact ⟨_, _, rfl, by decide, by decide⟩
  | bool b => cases b <;> exact ⟨_, _, rfl, by decide, by decide⟩
  | num d =>
    obtain ⟨c, s, htext, hc⟩ := d.text_lead
    exact ⟨c, s, by rw [stringify, htext], (numberLead hc).1, (numberLead hc).2.1⟩
  | str s => exact ⟨_, _, rfl, by decide, by decide⟩
  | arr items => exact ⟨_, _, by rw [stringify], by decide, by decide⟩
  | obj members => exact ⟨_, _, by rw [stringify], by decide, by decide⟩

theorem ends_cons {c : Char} {s : List Char}
    (hc : c.isDigit = false ∧ c ≠ '.' ∧ c ≠ 'e' ∧ c ≠ 'E') : Decimal.Ends (c :: s) := by
  intro d hd
  obtain rfl := Option.mem_some_iff.mp hd
  exact hc

theorem ends_stringifyItems (as : List JsonValue) (s : List Char) :
    Decimal.Ends (stringifyItems false as ++ s) := by
  cases as with
  | nil => exact ends_cons (by decide)
  | cons a as => exact ends_cons (by decide)

theorem ends_stringifyMembers (as : List (String × JsonValue)) (s : List Char) :
    Decimal.Ends (stringifyMembers false as ++ s) := by
  cases as with
  | nil => exact ends_cons (by decide)
  | cons a as => exact ends_cons (by decide)

/-- After its first item, the items of an array are read on behind a comma. -/
theorem stringifyItems_false_cons (a : JsonValue) (as : List JsonValue) :
    stringifyItems false (a :: as) = ',' :: stringifyItems true (a :: as) := rfl

theorem stringifyMembers_false_cons (a : String × JsonValue) (as : List (String × JsonValue)) :
    stringifyMembers false (a :: as) = ',' :: stringifyMembers true (a :: as) := rfl

theorem readWord_append (word : String) (a : JsonValue) (s : List Char) :
    readWord word a (word.toList ++ s) = some (a, s) := by
  rw [readWord, if_pos (List.prefix_append _ _), List.drop_left]

theorem readValue_arr {n : ℕ} {a : JsonValue} {as : List JsonValue} {s : List Char}
    (h : readItems n (stringifyItems true (a :: as) ++ s) = some (a :: as, s)) :
    readValue (n + 1) (stringify (.arr (a :: as)) ++ s) = some (.arr (a :: as), s) := by
  obtain ⟨c, t, hlead, hspace, hclose⟩ := stringify_lead a
  have htext : stringifyItems true (a :: as) ++ s = c :: (t ++ (stringifyItems false as ++ s)) := by
    simp [stringifyItems, hlead]
  rw [htext] at h
  rw [stringify, List.cons_append, htext, readValue, skipSpace_cons (by decide)]
  simp only [show ('[' : Char) ≠ quoteMark by decide, if_false, if_true, skipSpace_cons hspace]
  split
  · exact absurd (List.cons.inj ‹_›).1 hclose
  · rw [h, Option.map_some]

theorem readValue_obj {n : ℕ} {m : String × JsonValue} {ms : List (String × JsonValue)}
    {s : List Char} (hnd : ((m :: ms).map Prod.fst).Nodup)
    (hown : ownKeyOrder (m :: ms) = m :: ms)
    (h : readMembers n (stringifyMembers true (m :: ms) ++ s) = some (m :: ms, s)) :
    readValue (n + 1) (stringify (.obj (m :: ms)) ++ s) = some (.obj (m :: ms), s) := by
  have htext : stringifyMembers true (m :: ms) ++ s =
      quoteMark :: (m.1.toList.flatMap Json.escapeChar ++ quoteMark ::
        ':' :: (stringify m.2 ++ (stringifyMembers false ms ++ s))) := by
    simp [stringifyMembers, Json.quote]
  rw [htext] at h
  rw [stringify, List.cons_append, htext, readValue, skipSpace_cons (by decide)]
  simp only [show ('{' : Char) ≠ quoteMark by decide, show ('{' : Char) ≠ '[' by decide, if_false,
    if_true, skipSpace_cons (show isSpace quoteMark = false by decide)]
  split
  · exact absurd (List.cons.inj ‹_›).1 (by decide)
  · rw [h, Option.map_some, fromEntries_eq hnd, hown]

mutual

/-- A proper value is read off the front of a text. -/
theorem readValue_stringify : ∀ {a : JsonValue} {n : ℕ} {s : List Char}, Proper a →
    (stringify a).length ≤ n → Decimal.Ends s → readValue n (stringify a ++ s) = some (a, s)
  | a, 0, s, _, hn, _ => by
    obtain ⟨c, t, hlead, -⟩ := stringify_lead a
    simp [hlead] at hn
  | .null, n + 1, s, _, _, _ => readWord_append "ull" .null s
  | .bool true, n + 1, s, _, _, _ => readWord_append "rue" (.bool true) s
  | .bool false, n + 1, s, _, _, _ => readWord_append "alse" (.bool false) s
  | .num d, n + 1, s, _, _, hs => by
    obtain ⟨c, t, htext, hc⟩ := d.text_lead
    obtain ⟨hspace, -, hquote, harr, hobj, hn, ht, hf⟩ := numberLead hc
    have hread := Decimal.read_text_append d hs
    rw [htext, List.cons_append] at hread
    rw [stringify, htext, List.cons_append, readValue, skipSpace_cons hspace]
    simp only [hquote, harr, hobj, hn, ht, hf, if_false, hread, Option.map_some]
  | .str t, n + 1, s, _, _, _ => by
    rw [stringify, Json.quote, List.cons_append, List.append_assoc, readValue,
      skipSpace_cons (by decide)]
    simp only [if_true, List.singleton_append, readString_quote, Option.map_some]
  | .arr [], n + 1, s, _, _, _ => rfl
  | .arr (a :: as), n + 1, s, ha, hn, _ => by
    rw [Proper] at ha
    rw [stringify, List.length_cons] at hn
    exact readValue_arr (readItems_stringify ha (by omega))
  | .obj [], n + 1, s, _, _, _ => rfl
  | .obj (m :: ms), n + 1, s, ha, hn, _ => by
    rw [Proper] at ha
    rw [stringify, List.length_cons] at hn
    exact readValue_obj ha.1 ha.2.1 (readMembers_stringify ha.2.2 (by omega))

/-- The items of an array are read up to the closing bracket. -/
theorem readItems_stringify : ∀ {a : JsonValue} {as : List JsonValue} {n : ℕ} {s : List Char},
    ProperItems (a :: as) → (stringifyItems true (a :: as)).length ≤ n →
      readItems n (stringifyItems true (a :: as) ++ s) = some (a :: as, s)
  | a, as, 0, s, _, hn => by
    obtain ⟨c, t, hlead, -⟩ := stringify_lead a
    simp [stringifyItems, hlead] at hn
  | a, as, n + 1, s, ha, hn => by
    rw [ProperItems] at ha
    simp only [stringifyItems, if_true, List.nil_append, List.length_append] at hn
    have hrest : 1 ≤ (stringifyItems false as).length := by
      cases as <;> simp [stringifyItems]
    have hvalue := readValue_stringify ha.1 (by omega : (stringify a).length ≤ n)
      (ends_stringifyItems as s)
    have htext : stringifyItems true (a :: as) ++ s =
        stringify a ++ (stringifyItems false as ++ s) := by simp [stringifyItems]
    rw [htext, readItems]
    simp only [hvalue, Option.bind_eq_bind, Option.bind_some]
    cases as with
    | nil =>
      rw [stringifyItems, List.singleton_append, skipSpace_cons (by decide)]
      rfl
    | cons b bs =>
      rw [stringifyItems_false_cons] at hn
      rw [List.length_cons] at hn
      have hitems := readItems_stringify (n := n) (s := s) ha.2 (by omega)
      rw [stringifyItems_false_cons, List.cons_append, skipSpace_cons (by decide)]
      simp only [hitems, Option.bind_some, Option.pure_def]

/-- The members of an object are read up to the closing bracket. -/
theorem readMembers_stringify : ∀ {m : String × JsonValue} {ms : List (String × JsonValue)}
    {n : ℕ} {s : List Char}, ProperMembers (m :: ms) →
      (stringifyMembers true (m :: ms)).length ≤ n →
        readMembers n (stringifyMembers true (m :: ms) ++ s) = some (m :: ms, s)
  | m, ms, 0, s, _, hn => by simp [stringifyMembers, Json.quote] at hn
  | (k, a), ms, n + 1, s, ha, hn => by
    rw [ProperMembers] at ha
    simp only [stringifyMembers, if_true, List.nil_append, List.length_append, List.length_cons]
      at hn
    have hrest : 1 ≤ (stringifyMembers false ms).length := by
      cases ms <;> simp [stringifyMembers]
    have hvalue := readValue_stringify ha.1 (by omega : (stringify a).length ≤ n)
      (ends_stringifyMembers ms s)
    have htext : stringifyMembers true ((k, a) :: ms) ++ s =
        quoteMark :: (k.toList.flatMap Json.escapeChar ++ quoteMark ::
          ':' :: (stringify a ++ (stringifyMembers false ms ++ s))) := by
      simp [stringifyMembers, Json.quote]
    rw [htext, readMembers, skipSpace_cons (by decide)]
    simp only [if_true, readString_quote, Option.bind_eq_bind, Option.bind_some,
      skipSpace_cons (show isSpace ':' = false by decide), hvalue]
    cases ms with
    | nil =>
      rw [stringifyMembers, List.singleton_append, skipSpace_cons (by decide)]
      rfl
    | cons m ms =>
      rw [stringifyMembers_false_cons, List.length_cons] at hn
      have hmembers := readMembers_stringify (n := n) (s := s) ha.2 (by omega)
      rw [stringifyMembers_false_cons, List.cons_append, skipSpace_cons (by decide)]
      simp only [hmembers, Option.bind_some, Option.pure_def]

end

/-- A proper value is read back from its text. -/
theorem parse_stringify {a : JsonValue} (ha : Proper a) :
    parse (String.ofList (stringify a)) = some a := by
  have hread := readValue_stringify (s := []) ha (Nat.le_succ _) (by simp [Decimal.Ends])
  rw [List.append_nil] at hread
  rw [parse, String.toList_ofList, hread]
  rfl

/-- The text of a proper value determines it. -/
theorem stringify_injOn_proper {a b : JsonValue} (ha : Proper a) (hb : Proper b)
    (h : stringify a = stringify b) : a = b := by
  have hread := parse_stringify ha
  rw [h, parse_stringify hb] at hread
  exact (Option.some.inj hread).symm

end JsonValue
