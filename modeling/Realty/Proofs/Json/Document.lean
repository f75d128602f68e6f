/-
# Documents are read back

* `document` is the text of a value whose mappings are written field by field in their order, and
  `IsDocument` is the values that have one: null, truth values, numbers, strings, lists and mappings
  with distinct keys.
* `IsReadBack` says that the reader gets a value back from its text, whatever stands behind it,
  when there is room for as many brackets as are open in it at once.
* `items_isReadBack` and `fields_isReadBack`: items and fields in a row are read back when each
  of them is.
* `parse_document`: so is every document.
-/
import Realty.Nesting
import Realty.Proofs.Json.Numbers

namespace Realty.Json

open Value (nesting nestingFields_le_iff nestingItems_le_iff)

/-! ## 1. Documents -/

mutual

/-- The text of a value; the fields of a mapping stand in their order. -/
def document : Value → String
  | .list xs => Value.bracketed "[" "]" (documents xs)
  | .tuple xs => Value.bracketed "[" "]" (documents xs)
  | .object fs => Value.bracketed "\x7b" "\x7d" (entries fs)
  | v => encode v

/-- The text of each item. -/
def documents : List Value → List String
  | [] => []
  | x :: xs => document x :: documents xs

/-- The text of each field. -/
def entries : List (String × Value) → List String
  | [] => []
  | (k, x) :: fs => (encodeString k ++ ": " ++ document x) :: entries fs

end

/-- The values that have a document: an integer is written with as many digits as are read. -/
inductive IsDocument : Value → Prop
  | null : IsDocument .null
  | bool (b : Bool) : IsDocument (.bool b)
  | int {n : Int} (h : n.natAbs < 10 ^ maxIntegerDigits) : IsDocument (.int n)
  | float (x : Float) : IsDocument (.float x)
  | str (s : String) : IsDocument (.str s)
  | list {xs : List Value} (h : ∀ x ∈ xs, IsDocument x) : IsDocument (.list xs)
  | object {fs : List (String × Value)} (hkeys : (fs.map Prod.fst).Nodup)
      (h : ∀ f ∈ fs, IsDocument f.2) : IsDocument (.object fs)

theorem documents_eq_map (xs : List Value) : documents xs = xs.map document := by
  induction xs with
  | nil => rfl
  | cons x xs ih => rw [documents, ih, List.map_cons]

/-- The text of a field. -/
def entry (f : String × Value) : String := encodeString f.1 ++ ": " ++ document f.2

theorem entries_eq_map (fs : List (String × Value)) : entries fs = fs.map entry := by
  induction fs with
  | nil => rfl
  | cons f fs ih => rw [entries, ih, List.map_cons, entry]

theorem toList_document_list (xs : List Value) :
    (document (.list xs)).toList =
      '[' :: ((Text.joined ", " (xs.map document)).toList ++ [']']) := by
  rw [document, documents_eq_map]
  exact toList_bracketed '[' ']' _

theorem toList_document_object (fs : List (String × Value)) :
    (document (.object fs)).toList =
      '\x7b' :: ((Text.joined ", " (fs.map entry)).toList ++ ['\x7d']) := by
  rw [document, entries_eq_map]
  exact toList_bracketed '\x7b' '\x7d' _

theorem document_scalar {v : Value} (h : v.isScalar = true) : document v = encode v := by
  cases v <;> first | rfl | cases h

/-- Whether a value can start with a character. -/
def isOpening (c : Char) : Bool := isTokenChar c || c == '"' || c == '[' || c == '\x7b'

theorem isOpening_ne {c d : Char} (h : isOpening c = true) (hd : isOpening d = false) : c ≠ d := by
  rintro rfl
  exact absurd (h.symm.trans hd) (by decide)

/-- Values start with no blank. -/
theorem isSpace_of_isOpening {c : Char} (h : isOpening c = true) : isSpace c = false := by
  have hblank : c ≠ ' ' ∧ c ≠ '\t' ∧ c ≠ '\n' ∧ c ≠ '\r' :=
    ⟨isOpening_ne h rfl, isOpening_ne h rfl, isOpening_ne h rfl, isOpening_ne h rfl⟩
  simp [isSpace, hblank]

/-- Whether a text starts as a value can. -/
def Starts (s : String) : Prop := ∃ c t, s.toList = c :: t ∧ isOpening c = true

theorem starts_scalar {v : Value} (h : v.isScalar = true) : Starts (document v) := by
  rw [document_scalar h]
  obtain ⟨c, t, htext⟩ := List.exists_cons_of_ne_nil (encode_ne_nil h)
  have hc : isTokenChar c = true := encode_chars h c (htext ▸ List.mem_cons_self)
  exact ⟨c, t, htext, by rw [isOpening, hc]; rfl⟩

/-! ## 2. Items in a row -/

/-- The reader gets a value back from its text, with as much fuel as the text is long and room for
its brackets. -/
structure IsReadBack (v : Value) : Prop where
  starts : Starts (document v)
  value_eq : ∀ fuel room r, (document v).toList.length ≤ fuel → nesting v ≤ room → IsCut r →
    value fuel room ((document v).toList ++ r) = .ok (v, r)

theorem skipSpace_of_starts {s : String} (h : Starts s) (r : List Char) :
    skipSpace (s.toList ++ r) = s.toList ++ r := by
  obtain ⟨c, t, htext, hc⟩ := h
  rw [htext, List.cons_append, skipSpace, List.dropWhile_cons, isSpace_of_isOpening hc]
  rfl

/-- A row starts like its first text. -/
theorem starts_joined {p : String} (h : Starts p) (ps : List String) :
    Starts (Text.joined ", " (p :: ps)) := by
  obtain ⟨c, t, htext, hc⟩ := h
  have hjoined := toList_joined_cons p ps []
  rw [List.append_nil, htext] at hjoined
  exact ⟨c, _, hjoined, hc⟩

/-- The blank in front of a row is skipped. -/
theorem skipSpace_joined {p : String} (h : Starts p) (ps : List String) (r : List Char) :
    skipSpace (' ' :: ((Text.joined ", " (p :: ps)).toList ++ r)) =
      (Text.joined ", " (p :: ps)).toList ++ r :=
  skipSpace_of_starts (starts_joined h ps) r

theorem length_joined_cons (p : String) (ps : List String) :
    (Text.joined ", " (p :: ps)).toList.length =
      p.toList.length + (following ps []).length := by
  rw [← List.length_append, ← toList_joined_cons, List.append_nil]

theorem length_following (p : String) (ps : List String) :
    (following (p :: ps) []).length = (Text.joined ", " (p :: ps)).toList.length + 2 := by
  show (',' :: ' ' :: ((Text.joined ", " (p :: ps)).toList ++ [])).length = _
  rw [List.append_nil]
  rfl

/-- **Items in a row are read back** when each of them is.  Every item takes one step, and the text
of each is longer than that. -/
theorem items_isReadBack {xs : List Value} (hne : xs ≠ []) (hread : ∀ x ∈ xs, IsReadBack x)
    {room : Nat} (hroom : ∀ x ∈ xs, nesting x ≤ room) {fuel : Nat}
    (hfuel : (Text.joined ", " (xs.map document)).toList.length < fuel) (r : List Char) :
    items fuel room ((Text.joined ", " (xs.map document)).toList ++ ']' :: r) = .ok (xs, r) := by
  induction xs generalizing fuel with
  | nil => exact absurd rfl hne
  | cons x xs ih =>
    obtain ⟨fuel, rfl⟩ := Nat.exists_eq_add_one.2 (Nat.zero_lt_of_lt hfuel)
    obtain ⟨hx, hxs⟩ := List.forall_mem_cons.1 hread
    obtain ⟨hxroom, hxsroom⟩ := List.forall_mem_cons.1 hroom
    have hcut : IsCut (following (xs.map document) (']' :: r)) :=
      following_isCut (isCut_cons rfl r)
    rw [List.map_cons, length_joined_cons] at hfuel
    rw [List.map_cons, toList_joined_cons, items, hx.value_eq fuel room _ (by omega) hxroom hcut]
    cases xs with
    | nil => rfl
    | cons y ys =>
      rw [List.map_cons, length_following, ← List.map_cons] at hfuel
      have hshort : (Text.joined ", " ((y :: ys).map document)).toList.length < fuel := by omega
      have hrest := ih (List.cons_ne_nil _ _) hxs hxsroom hshort
      have hskip := skipSpace_joined (hxs y List.mem_cons_self).starts (ys.map document) (']' :: r)
      have hcomma (t : List Char) : skipSpace (',' :: t) = ',' :: t := rfl
      simp only [List.map_cons, following, bind, Except.bind, hcomma] at hskip hrest ⊢
      rw [hskip, hrest]

/-! ## 3. Fields in a row -/

theorem toList_entry (f : String × Value) :
    (entry f).toList =
      '"' :: (f.1.toList.flatMap encodeChar ++ '"' :: ':' :: ' ' :: (document f.2).toList) := by
  rw [entry, String.toList_append, String.toList_append, toList_encodeString]
  simp

theorem starts_entry (f : String × Value) : Starts (entry f) :=
  ⟨_, _, toList_entry f, rfl⟩

theorem encodeChar_ne_nil (c : Char) : encodeChar c ≠ [] := by
  simp only [encodeChar]
  split_ifs <;> simp [unitEscape]

/-- The reader has as much fuel for a string as there is text behind the opening quote. -/
theorem stringBody_length (s r : List Char) :
    stringBody ((s.flatMap encodeChar ++ '"' :: r).length + 1)
      (s.flatMap encodeChar ++ '"' :: r) = .ok (s, r) := by
  have hlength : s.length ≤ (s.flatMap encodeChar).length := by
    induction s with
    | nil => exact Nat.le_refl 0
    | cons c s ih =>
      have hc := List.length_pos_iff.2 (encodeChar_ne_nil c)
      rw [List.flatMap_cons, List.length_append, List.length_cons]
      omega
  refine stringBody_encode s ?_ r
  rw [List.length_append]
  omega

/-- A key that is new comes last. -/
theorem insertField_of_not_mem {k : String} (v : Value) {fs : List (String × Value)}
    (h : k ∉ fs.map Prod.fst) : insertField k v fs = fs ++ [(k, v)] := by
  induction fs with
  | nil => rfl
  | cons f fs ih =>
    rw [List.map_cons, List.mem_cons, not_or] at h
    rw [insertField, if_neg (Ne.symm h.1), ih h.2, List.cons_append]

/-- **One field is read back** when its value is; what stands behind it decides how to go on. -/
theorem fields_entry {f : String × Value} (hread : IsReadBack f.2) {room : Nat}
    (hroom : nesting f.2 ≤ room) {fuel : Nat} (hfuel : (entry f).toList.length ≤ fuel)
    {rest : List Char} (hrest : IsCut rest) (seen : List (String × Value)) :
    fields (fuel + 1) room seen ((entry f).toList ++ rest) =
      match skipSpace rest with
      | '\x7d' :: t => .ok (insertField f.1 f.2 seen, t)
      | ',' :: t => fields fuel room (insertField f.1 f.2 seen) (skipSpace t)
      | _ => .error .expectingComma := by
  have htext : (entry f).toList ++ rest = '"' :: (f.1.toList.flatMap encodeChar ++
      '"' :: ':' :: ' ' :: ((document f.2).toList ++ rest)) := by
    rw [toList_entry]
    simp
  have hlength : (document f.2).toList.length ≤ (entry f).toList.length := by
    rw [toList_entry]
    simp only [List.length_cons, List.length_append]
    omega
  have hkey := stringBody_length f.1.toList (':' :: ' ' :: ((document f.2).toList ++ rest))
  have hcolon (t : List Char) : skipSpace (':' :: t) = ':' :: t := rfl
  have hblank : skipSpace (' ' :: ((document f.2).toList ++ rest)) =
      (document f.2).toList ++ rest := skipSpace_of_starts hread.starts rest
  have hvalue := hread.value_eq fuel room rest (hlength.trans hfuel) hroom hrest
  have hstep := fields.eq_def (fuel + 1) room seen ((entry f).toList ++ rest)
  simp only [htext, hkey, bind, Except.bind, hcolon, hblank, hvalue, String.ofList_toList]
    at hstep ⊢
  exact hstep

/-- **Fields in a row are read back** when their values are and no key is given twice. -/
theorem fields_isReadBack {fs : List (String × Value)} (hne : fs ≠ [])
    (hread : ∀ f ∈ fs, IsReadBack f.2) {room : Nat} (hroom : ∀ f ∈ fs, nesting f.2 ≤ room)
    {seen : List (String × Value)} (hkeys : ((seen ++ fs).map Prod.fst).Nodup) {fuel : Nat}
    (hfuel : (Text.joined ", " (fs.map entry)).toList.length < fuel) (r : List Char) :
    fields fuel room seen ((Text.joined ", " (fs.map entry)).toList ++ '\x7d' :: r) =
      .ok (seen ++ fs, r) := by
  induction fs generalizing fuel seen with
  | nil => exact absurd rfl hne
  | cons f fs ih =>
    obtain ⟨fuel, rfl⟩ := Nat.exists_eq_add_one.2 (Nat.zero_lt_of_lt hfuel)
    obtain ⟨hf, hfs⟩ := List.forall_mem_cons.1 hread
    obtain ⟨hfroom, hfsroom⟩ := List.forall_mem_cons.1 hroom
    have hnew : f.1 ∉ seen.map Prod.fst := by
      rw [List.map_append, List.map_cons] at hkeys
      exact fun hmem => (List.nodup_append.1 hkeys).2.2 _ hmem _ List.mem_cons_self rfl
    have hseen : seen ++ f :: fs = insertField f.1 f.2 seen ++ fs := by
      rw [insertField_of_not_mem f.2 hnew, List.append_assoc]
      rfl
    have hcut : IsCut (following (fs.map entry) ('\x7d' :: r)) :=
      following_isCut (isCut_cons rfl r)
    rw [List.map_cons, length_joined_cons] at hfuel
    rw [hseen] at hkeys ⊢
    rw [List.map_cons, toList_joined_cons, fields_entry hf hfroom (by omega) hcut]
    cases fs with
    | nil =>
      rw [List.append_nil]
      rfl
    | cons g gs =>
      rw [List.map_cons, length_following, ← List.map_cons] at hfuel
      have hshort : (Text.joined ", " ((g :: gs).map entry)).toList.length < fuel := by omega
      have hrest := ih (List.cons_ne_nil _ _) hfs hfsroom hkeys hshort
      have hskip := skipSpace_joined (starts_entry g) (gs.map entry) ('\x7d' :: r)
      have hcomma (t : List Char) : skipSpace (',' :: t) = ',' :: t := rfl
      simp only [List.map_cons, following, hcomma] at hskip hrest ⊢
      rw [hskip, hrest]

/-! ## 4. Values -/

theorem isReadBack_scalar {v : Value} (h : v.isScalar = true)
    (hint : ∀ n, v = .int n → n.natAbs < 10 ^ maxIntegerDigits) : IsReadBack v := by
  refine ⟨starts_scalar h, fun fuel room r hfuel _ hr => ?_⟩
  rw [document_scalar h] at hfuel ⊢
  have hlength : 0 < (encode v).toList.length := List.length_pos_iff.2 (encode_ne_nil h)
  obtain ⟨fuel, rfl⟩ := Nat.exists_eq_add_one.2 (hlength.trans_le hfuel)
  exact value_scalar h hint hr

theorem isReadBack_str (s : String) : IsReadBack (.str s) := by
  refine ⟨⟨_, _, toList_encodeString s, rfl⟩, fun fuel room r hfuel _ _ => ?_⟩
  have htext : (document (.str s)).toList = '"' :: (s.toList.flatMap encodeChar ++ ['"']) :=
    toList_encodeString s
  rw [htext, List.length_cons] at hfuel
  obtain ⟨fuel, rfl⟩ := Nat.exists_eq_add_one.2 (Nat.zero_lt_of_lt hfuel)
  rw [htext, List.cons_append, List.append_assoc, List.singleton_append, value]
  simp only [stringBody_length, bind, Except.bind, String.ofList_toList]

theorem isReadBack_list {xs : List Value} (hread : ∀ x ∈ xs, IsReadBack x) :
    IsReadBack (.list xs) := by
  refine ⟨⟨_, _, toList_document_list xs, rfl⟩, fun fuel room r hfuel hroom _ => ?_⟩
  rw [nesting] at hroom
  obtain ⟨room, rfl⟩ := Nat.exists_eq_add_one.2 (Nat.zero_lt_of_lt hroom)
  have hitemsroom : ∀ x ∈ xs, nesting x ≤ room :=
    nestingItems_le_iff.1 (Nat.le_of_succ_le_succ hroom)
  rw [toList_document_list, List.length_cons, List.length_append, List.length_singleton] at hfuel
  obtain ⟨fuel, rfl⟩ := Nat.exists_eq_add_one.2 (Nat.zero_lt_of_lt hfuel)
  rw [toList_document_list, List.cons_append, List.append_assoc, List.singleton_append, value]
  cases xs with
  | nil => rfl
  | cons x xs =>
    have hshort : (Text.joined ", " ((x :: xs).map document)).toList.length < fuel := by omega
    have hitems := items_isReadBack (List.cons_ne_nil x xs) hread hitemsroom hshort r
    have hstart := starts_joined (hread x List.mem_cons_self).starts (xs.map document)
    have hskip := skipSpace_of_starts hstart (']' :: r)
    obtain ⟨c, t, htext, hc⟩ := hstart
    rw [List.map_cons] at hitems ⊢
    rw [hskip]
    split
    · next heq =>
      rw [htext] at heq
      exact absurd (List.cons.inj heq).1 (isOpening_ne hc rfl)
    · simp only [hitems, bind, Except.bind]

theorem isReadBack_object {fs : List (String × Value)} (hkeys : (fs.map Prod.fst).Nodup)
    (hread : ∀ f ∈ fs, IsReadBack f.2) : IsReadBack (.object fs) := by
  refine ⟨⟨_, _, toList_document_object fs, rfl⟩, fun fuel room r hfuel hroom _ => ?_⟩
  rw [nesting] at hroom
  obtain ⟨room, rfl⟩ := Nat.exists_eq_add_one.2 (Nat.zero_lt_of_lt hroom)
  have hfieldsroom : ∀ f ∈ fs, nesting f.2 ≤ room :=
    nestingFields_le_iff.1 (Nat.le_of_succ_le_succ hroom)
  rw [toList_document_object, List.length_cons, List.length_append, List.length_singleton] at hfuel
  obtain ⟨fuel, rfl⟩ := Nat.exists_eq_add_one.2 (Nat.zero_lt_of_lt hfuel)
  rw [toList_document_object, List.cons_append, List.append_assoc, List.singleton_append, value]
  cases fs with
  | nil => rfl
  | cons f fs =>
    have hshort : (Text.joined ", " ((f :: fs).map entry)).toList.length < fuel := by omega
    have hnone : ([] : List (String × Value)) ++ f :: fs = f :: fs := rfl
    have hfields :=
      fields_isReadBack (List.cons_ne_nil f fs) hread hfieldsroom (hnone ▸ hkeys) hshort r
    have hstart := starts_joined (starts_entry f) (fs.map entry)
    have hskip := skipSpace_of_starts hstart ('\x7d' :: r)
    obtain ⟨c, t, htext, hc⟩ := hstart
    rw [hnone, List.map_cons] at hfields
    rw [List.map_cons, hskip]
    split
    · next heq =>
      rw [htext] at heq
      exact absurd (List.cons.inj heq).1 (isOpening_ne hc rfl)
    · simp only [hfields, bind, Except.bind]

/-- **The reader gets back every document**, whatever stands behind it. -/
theorem IsDocument.isReadBack {v : Value} (h : IsDocument v) : IsReadBack v := by
  induction h with
  | null => exact isReadBack_scalar rfl nofun
  | bool b => exact isReadBack_scalar rfl nofun
  | int h => exact isReadBack_scalar rfl fun n hn => Value.int.inj hn ▸ h
  | float x => exact isReadBack_scalar rfl nofun
  | str s => exact isReadBack_str s
  | list _ ih => exact isReadBack_list ih
  | object hkeys _ ih => exact isReadBack_object hkeys ih

/-- **A document is parsed to the value that it was written from**, when there is room for its
brackets. -/
theorem parse_document {v : Value} (h : IsDocument v) {room : Nat} (hroom : nesting v ≤ room) :
    parse room (document v).toList = .ok v := by
  obtain ⟨hstarts, hvalue⟩ := h.isReadBack
  have hskip := skipSpace_of_starts hstarts []
  have hread := hvalue (2 * (document v).toList.length + 2) room [] (by omega) hroom nofun
  rw [List.append_nil] at hskip hread
  obtain ⟨c, t, htext, hc⟩ := hstarts
  have hmark : ¬ c.toNat = 0xFEFF := fun hcode =>
    isOpening_ne hc (d := Char.ofNat 0xFEFF) rfl (by rw [← hcode, Char.ofNat_toNat])
  rw [htext] at hskip hread ⊢
  rw [parse, if_neg hmark, hskip, hread]
  rfl

end Realty.Json
