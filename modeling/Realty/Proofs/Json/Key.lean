/-
# The text of filters tells the filters

* `Value.IsPlain` is the values that a filter is given as: null, truth values, numbers, strings,
  and nested lists of these.
* `scalar_injective`: two scalars with one text are equal, kinds apart.
* `IsWritten` is the values that are written as they are: plain values, and mappings of such values
  in order of their keys.
* `encode_append_injective`: the text of such a value tells the value, whatever follows it.
* `encodeObject_append_injective`: so does the text of a mapping, up to the order of its fields.
-/
import Realty.Proofs.Double.Text
import Realty.Proofs.Json.Strings

namespace Realty

/-! ## 1. Plain values -/

namespace Value

/-- Whether a value is null, a truth value or a number of one of the two usual kinds. -/
def isScalar : Value → Bool
  | .null | .bool _ | .int _ | .float _ => true
  | _ => false

/-- Null, truth values, numbers, strings, and nested lists of these. -/
inductive IsPlain : Value → Prop
  | scalar {v : Value} (h : v.isScalar = true) : IsPlain v
  | str (s : String) : IsPlain (.str s)
  | list {xs : List Value} (h : ∀ x ∈ xs, IsPlain x) : IsPlain (.list xs)

end Value

namespace Json

open Value (IsPlain)

/-! ## 2. Scalars -/

/-- What a scalar is written as. -/
inductive Kind where
  | word
  | whole
  | double
deriving DecidableEq

/-- What a text can be: a whole number has only digits and a sign, a double has a point or a power
of ten too, and a word has some other letter. -/
def textKind (cs : List Char) : Kind :=
  if cs.all Double.isFloatChar then
    if cs.any fun c => c == '.' || c == 'e' then .double else .whole
  else .word

/-- Whether a character stands in the text of a scalar. -/
def isTokenChar (c : Char) : Bool := c.isAlpha || Double.isFloatChar c

/-- What a scalar is written as. -/
def scalarKind : Value → Kind
  | .int _ => .whole
  | .float x => if Double.isFinite x then .double else .word
  | _ => .word

theorem toList_encode_int (n : Int) : (encode (.int n)).toList = Text.intDigits n :=
  String.toList_ofList

theorem toList_encode_float {x : Float} (h : Double.isFinite x = true) :
    (encode (.float x)).toList = Double.textChars x := by
  obtain ⟨negative, m, e, hdecode⟩ := Double.decode_of_isFinite h
  rw [encode, encodeFloat, hdecode]
  exact String.toList_ofList

theorem textKind_int (n : Int) : textKind (Text.intDigits n) = .whole := by
  have hchars : ∀ c ∈ Text.intDigits n, c.isDigit = true ∨ c = '-' :=
    fun c hc => Text.isDigit_or_minus_of_mem_intDigits hc
  have hall : (Text.intDigits n).all Double.isFloatChar = true := by
    refine List.all_eq_true.2 fun c hc => ?_
    rcases hchars c hc with hdigit | rfl
    · exact Double.isFloatChar_of_isDigit hdigit
    · rfl
  have hany : ((Text.intDigits n).any fun c => c == '.' || c == 'e') = false := by
    refine List.any_eq_false.2 fun c hc => ?_
    rcases hchars c hc with hdigit | rfl
    · have hpoint : c ≠ '.' := by
        rintro rfl
        cases hdigit
      have hpower : c ≠ 'e' := by
        rintro rfl
        cases hdigit
      simp [hpoint, hpower]
    · decide
  rw [textKind, if_pos hall, hany]
  rfl

theorem textKind_finite {x : Float} (h : Double.isFinite x = true) :
    textKind (Double.textChars x) = .double := by
  obtain ⟨negative, m, e, hdecode⟩ := Double.decode_of_isFinite h
  have hbody := Double.isMagnitude_unsigned m e
  have hall : (Double.textChars x).all Double.isFloatChar = true :=
    List.all_eq_true.2 (Double.textChars_chars h)
  have hany : ((Double.textChars x).any fun c => c == '.' || c == 'e') = true := by
    rw [Double.textChars_finite hdecode, List.any_append, Bool.or_eq_true]
    refine Or.inr (List.any_eq_true.2 ?_)
    rcases hbody.marked with hpoint | hpower
    · exact ⟨'.', hpoint, rfl⟩
    · exact ⟨'e', hpower, rfl⟩
  rw [textKind, if_pos hall, if_pos hany]

/-- A double that is not finite is one of three. -/
theorem float_cases {x : Float} (h : Double.isFinite x ≠ true) :
    x = Double.nan ∨ x = Double.infinity false ∨ x = Double.infinity true := by
  have hnan : Double.decode Double.nan = .nan := by decide +kernel
  have hinfinity : ∀ b, Double.decode (Double.infinity b) = .infinity b := by decide +kernel
  cases hdecode : Double.decode x with
  | nan => exact Or.inl (Double.decode_injective (hdecode.trans hnan.symm))
  | infinity negative =>
    have hx := Double.decode_injective (hdecode.trans (hinfinity negative).symm)
    cases negative with
    | false => exact Or.inr (Or.inl hx)
    | true => exact Or.inr (Or.inr hx)
  | finite negative m e => exact absurd (by simp [Double.isFinite, hdecode]) h

/-- What is not written as a number is written as one of the words. -/
theorem mem_words {v : Value} (h : v.isScalar = true) (hword : scalarKind v = .word) :
    (encode v, v) ∈ words := by
  cases v with
  | null => simp [words, encode]
  | bool b => cases b <;> simp [words, encode]
  | int n => cases hword
  | float x =>
    have hx : Double.isFinite x ≠ true := by
      intro hfinite
      rw [scalarKind, if_pos hfinite] at hword
      cases hword
    have htexts : (encode (.float Double.nan), encode (.float (Double.infinity false)),
        encode (.float (Double.infinity true))) = ("NaN", "Infinity", "-Infinity") := by
      decide +kernel
    obtain ⟨hnan, hpositive, hnegative⟩ : _ ∧ _ ∧ _ := by simpa using htexts
    rcases float_cases hx with rfl | rfl | rfl
    · simp [words, hnan]
    · simp [words, hpositive]
    · simp [words, hnegative]
  | _ => cases h

/-- The words are told from numbers, and are texts of scalars. -/
theorem words_texts : ∀ p ∈ words, textKind p.1.toList = .word ∧
    p.1.toList.all isTokenChar = true ∧ p.1.toList ≠ [] := by
  simp only [words, List.forall_mem_cons]
  decide +kernel

theorem textKind_encode {v : Value} (h : v.isScalar = true) :
    textKind (encode v).toList = scalarKind v := by
  cases hkind : scalarKind v with
  | word => exact (words_texts (encode v, v) (mem_words h hkind)).1
  | whole =>
    cases v with
    | int n => rw [toList_encode_int, textKind_int]
    | float x =>
      rw [scalarKind] at hkind
      split at hkind <;> cases hkind
    | _ => cases hkind
  | double =>
    cases v with
    | float x =>
      have hx : Double.isFinite x = true := by
        by_contra hx
        rw [scalarKind, if_neg hx] at hkind
        cases hkind
      rw [toList_encode_float hx, textKind_finite hx]
    | _ => cases hkind

theorem eq_int_of_scalarKind {v : Value} (h : scalarKind v = .whole) : ∃ n, v = .int n := by
  cases v with
  | int n => exact ⟨n, rfl⟩
  | float x =>
    rw [scalarKind] at h
    split at h <;> cases h
  | _ => cases h

theorem eq_float_of_scalarKind {v : Value} (h : scalarKind v = .double) :
    ∃ x, v = .float x ∧ Double.isFinite x = true := by
  cases v with
  | float x =>
    rw [scalarKind] at h
    split at h
    · next hx => exact ⟨x, rfl, hx⟩
    · cases h
  | _ => cases h

/-- **Two scalars with one text are equal**, and so of one kind. -/
theorem scalar_injective {v w : Value} (hv : v.isScalar = true) (hw : w.isScalar = true)
    (h : (encode v).toList = (encode w).toList) : v = w := by
  have hkind : scalarKind v = scalarKind w := by
    rw [← textKind_encode hv, h, textKind_encode hw]
  cases hvk : scalarKind v with
  | word =>
    have hnodup : (words.map Prod.fst).Nodup := by decide
    have htext : encode v = encode w := String.toList_inj.1 h
    have hvmem := mem_words hv hvk
    have hwmem := mem_words hw (hkind.symm.trans hvk)
    exact congrArg Prod.snd (List.inj_on_of_nodup_map hnodup hvmem hwmem htext)
  | whole =>
    obtain ⟨m, rfl⟩ := eq_int_of_scalarKind hvk
    obtain ⟨n, rfl⟩ := eq_int_of_scalarKind (hkind.symm.trans hvk)
    rw [toList_encode_int, toList_encode_int] at h
    rw [Text.intDigits_injective h]
  | double =>
    obtain ⟨x, rfl, hx⟩ := eq_float_of_scalarKind hvk
    obtain ⟨y, rfl, hy⟩ := eq_float_of_scalarKind (hkind.symm.trans hvk)
    rw [toList_encode_float hx, toList_encode_float hy] at h
    rw [Double.textChars_injective hx hy h]

/-! ## 3. Where a value ends -/

/-- What may follow a value: nothing, or a character of no scalar. -/
def IsCut (r : List Char) : Prop := ∀ c ∈ r.head?, isTokenChar c = false

theorem encode_chars {v : Value} (h : v.isScalar = true) :
    ∀ c ∈ (encode v).toList, isTokenChar c = true := by
  cases hkind : scalarKind v with
  | word => exact List.all_eq_true.1 (words_texts (encode v, v) (mem_words h hkind)).2.1
  | _ =>
    have hall : (encode v).toList.all Double.isFloatChar = true := by
      have htext := textKind_encode h
      rw [hkind, textKind] at htext
      by_contra hall
      rw [if_neg hall] at htext
      cases htext
    intro c hc
    rw [isTokenChar, List.all_eq_true.1 hall c hc, Bool.or_true]

theorem encode_ne_nil {v : Value} (h : v.isScalar = true) : (encode v).toList ≠ [] := by
  cases hkind : scalarKind v with
  | word => exact (words_texts (encode v, v) (mem_words h hkind)).2.2
  | whole =>
    obtain ⟨n, rfl⟩ := eq_int_of_scalarKind hkind
    rw [toList_encode_int]
    exact Text.intDigits_ne_nil n
  | double =>
    intro hnil
    have htext := textKind_encode h
    rw [hkind, hnil] at htext
    cases htext

/-- Behind a scalar its text is cut off. -/
theorem takeWhile_encode {v : Value} (h : v.isScalar = true) {r : List Char} (hr : IsCut r) :
    ((encode v).toList ++ r).takeWhile isTokenChar = (encode v).toList := by
  rw [List.takeWhile_append_of_pos (encode_chars h)]
  cases r with
  | nil => rw [List.takeWhile_nil, List.append_nil]
  | cons c r =>
    have hc : isTokenChar c = false := hr c rfl
    rw [List.takeWhile_cons, hc]
    exact List.append_nil _

theorem scalar_append_injective {v w : Value} (hv : v.isScalar = true) (hw : w.isScalar = true)
    {r s : List Char} (hr : IsCut r) (hs : IsCut s)
    (h : (encode v).toList ++ r = (encode w).toList ++ s) : v = w ∧ r = s := by
  have htext : (encode v).toList = (encode w).toList := by
    rw [← takeWhile_encode hv hr, h, takeWhile_encode hw hs]
  rw [htext] at h
  exact ⟨scalar_injective hv hw htext, List.append_cancel_left h⟩

/-! ## 4. Items one after the other -/

theorem isCut_cons {c : Char} (h : isTokenChar c = false) (r : List Char) : IsCut (c :: r) := by
  intro d hd
  cases hd
  exact h

/-- What follows the first of some items: the others, or what closes them. -/
def following (items : List String) (rest : List Char) : List Char :=
  match items with
  | [] => rest
  | _ => ',' :: ' ' :: ((Text.joined ", " items).toList ++ rest)

theorem toList_joined_cons (p : String) (ps : List String) (rest : List Char) :
    (Text.joined ", " (p :: ps)).toList ++ rest = p.toList ++ following ps rest := by
  cases ps with
  | nil => rw [Text.joined, String.intercalate_singleton, following]
  | cons q ps =>
    rw [Text.joined, String.intercalate_cons_cons, String.toList_append, String.toList_append,
      List.append_assoc, List.append_assoc]
    rfl

theorem following_isCut {items : List String} {rest : List Char} (h : IsCut rest) :
    IsCut (following items rest) := by
  cases items with
  | nil => exact h
  | cons p ps => exact isCut_cons rfl _

/-- What follows tells the other items, as none of them is closed by a comma. -/
theorem joined_of_following {close : Char} (hcomma : close ≠ ',') {ps qs : List String}
    {r s : List Char} (h : following ps (close :: r) = following qs (close :: s)) :
    (Text.joined ", " ps).toList ++ close :: r = (Text.joined ", " qs).toList ++ close :: s := by
  cases ps with
  | nil =>
    cases qs with
    | nil => exact congrArg _ h
    | cons q qs => exact absurd (List.cons.inj h).1 hcomma
  | cons p ps =>
    cases qs with
    | nil => exact absurd (List.cons.inj h).1.symm hcomma
    | cons q qs => exact (List.cons.inj (List.cons.inj h).2).2

variable {α : Type} {text : α → String} {close : Char}

/-- **Items that are told apart one by one are told apart in a row**, up to what closes it. -/
theorem joined_append_injective (hclose : isTokenChar close = false) (hcomma : close ≠ ',')
    {xs ys : List α} {r s : List Char}
    (hinjective : ∀ x ∈ xs, ∀ y ∈ ys, ∀ r s, IsCut r → IsCut s →
      (text x).toList ++ r = (text y).toList ++ s → x = y ∧ r = s)
    (hstart : ∀ x ∈ xs ++ ys, ∀ r s, (text x).toList ++ r ≠ close :: s)
    (h : (Text.joined ", " (xs.map text)).toList ++ close :: r =
      (Text.joined ", " (ys.map text)).toList ++ close :: s) : xs = ys ∧ r = s := by
  induction xs generalizing ys with
  | nil =>
    cases ys with
    | nil => exact ⟨rfl, (List.cons.inj h).2⟩
    | cons y ys =>
      rw [List.map_cons, toList_joined_cons] at h
      exact absurd h.symm (hstart y (by simp) _ _)
  | cons x xs ih =>
    cases ys with
    | nil =>
      rw [List.map_cons, toList_joined_cons] at h
      exact absurd h (hstart x (by simp) _ _)
    | cons y ys =>
      rw [List.map_cons, List.map_cons, toList_joined_cons, toList_joined_cons] at h
      obtain ⟨rfl, hrest⟩ := hinjective x List.mem_cons_self y List.mem_cons_self _ _
        (following_isCut (isCut_cons hclose r)) (following_isCut (isCut_cons hclose s)) h
      have hinjective' : ∀ z ∈ xs, ∀ w ∈ ys, ∀ r s, IsCut r → IsCut s →
          (text z).toList ++ r = (text w).toList ++ s → z = w ∧ r = s :=
        fun z hz w hw => hinjective z (List.mem_cons_of_mem x hz) w (List.mem_cons_of_mem x hw)
      have hstart' : ∀ z ∈ xs ++ ys, ∀ r s, (text z).toList ++ r ≠ close :: s := by
        intro z hz
        refine hstart z ?_
        rcases List.mem_append.1 hz with hz | hz
        · exact List.mem_append_left _ (List.mem_cons_of_mem x hz)
        · exact List.mem_append_right _ (List.mem_cons_of_mem x hz)
      obtain ⟨rfl, hlast⟩ := ih hinjective' hstart' (joined_of_following hcomma hrest)
      exact ⟨rfl, hlast⟩

theorem toList_bracketed (a b : Char) (items : List String) :
    (Value.bracketed (String.ofList [a]) (String.ofList [b]) items).toList =
      a :: ((Text.joined ", " items).toList ++ [b]) := by
  rw [Value.bracketed, String.toList_append, String.toList_append, String.toList_ofList,
    String.toList_ofList]
  rfl

/-! ## 5. Values -/

theorem encodeItems_eq_map (xs : List Value) : encodeItems xs = xs.map encode := by
  induction xs with
  | nil => rfl
  | cons x xs ih => rw [encodeItems, ih, List.map_cons]

theorem toList_encode_list (xs : List Value) :
    (encode (.list xs)).toList = '[' :: ((Text.joined ", " (xs.map encode)).toList ++ [']']) := by
  rw [encode, encodeItems_eq_map]
  exact toList_bracketed '[' ']' _

/-- One field of a mapping. -/
def fieldText (f : String × Value) : String := encodeString f.1 ++ ": " ++ encode f.2

theorem encodeEach_eq_map (fs : List (String × Value)) :
    encodeEach fs = fs.map fun f => (f.1, encode f.2) := by
  induction fs with
  | nil => rfl
  | cons f fs ih => rw [encodeEach, ih, List.map_cons]

/-- Sorting fields looks at the keys only. -/
theorem sortFields_map {α β : Type} (text : α → β) (fs : List (String × α)) :
    sortFields (fs.map fun f => (f.1, text f.2)) =
      (sortFields fs).map fun f => (f.1, text f.2) := by
  unfold sortFields
  rw [List.map_mergeSort (s := fun a b : String × β => decide (a.1 ≤ b.1))]
  exact fun a _ b _ => rfl

/-- A mapping is written field by field in order of the keys. -/
theorem toList_encode_object (fs : List (String × Value)) :
    (encode (.object fs)).toList =
      '\x7b' :: ((Text.joined ", " ((sortFields fs).map fieldText)).toList ++ ['\x7d']) := by
  rw [encode, encodeEach_eq_map, encodeFields, sortFields_map, List.map_map]
  exact toList_bracketed '\x7b' '\x7d' _

theorem toList_fieldText (f : String × Value) :
    (fieldText f).toList = (encodeString f.1).toList ++ ':' :: ' ' :: (encode f.2).toList := by
  rw [fieldText, String.toList_append, String.toList_append, List.append_assoc]
  rfl

theorem fieldText_append_ne_close (f : String × Value) (r s : List Char) :
    (fieldText f).toList ++ r ≠ '\x7d' :: s := by
  rw [toList_fieldText, toList_encodeString]
  exact fun heq => absurd (List.cons.inj heq).1 (by decide)

/-- The values that are written as they are: null, truth values, numbers, strings, lists, and
mappings in order of their keys. -/
inductive IsWritten : Value → Prop
  | scalar {v : Value} (h : v.isScalar = true) : IsWritten v
  | str (s : String) : IsWritten (.str s)
  | list {xs : List Value} (h : ∀ x ∈ xs, IsWritten x) : IsWritten (.list xs)
  | object {fs : List (String × Value)} (hsorted : sortFields fs = fs)
      (h : ∀ f ∈ fs, IsWritten f.2) : IsWritten (.object fs)

theorem isWritten_of_isPlain {v : Value} (h : IsPlain v) : IsWritten v := by
  induction h with
  | scalar h => exact .scalar h
  | str s => exact .str s
  | list _ ih => exact .list ih

/-- How a value begins. -/
inductive Shape where
  | scalar
  | text
  | list
  | object
deriving DecidableEq

/-- The values that begin with a character. -/
def startShape (c : Char) : Shape :=
  if c = '"' then .text else if c = '[' then .list else if c = '\x7b' then .object else .scalar

/-- How a value begins. -/
def shape : Value → Shape
  | .str _ => .text
  | .list _ => .list
  | .object _ => .object
  | _ => .scalar

theorem shape_scalar {v : Value} (h : v.isScalar = true) : shape v = .scalar := by
  cases v <;> first | rfl | cases h

/-- The first character of a value says how it goes on, and closes nothing. -/
theorem encode_start {v : Value} (h : IsWritten v) :
    ∃ c t, (encode v).toList = c :: t ∧ startShape c = shape v ∧ c ≠ ']' := by
  cases h with
  | str s =>
    rw [encode, toList_encodeString]
    exact ⟨_, _, rfl, rfl, by decide⟩
  | list h =>
    rw [toList_encode_list]
    exact ⟨_, _, rfl, rfl, by decide⟩
  | object _ h =>
    rw [toList_encode_object]
    exact ⟨_, _, rfl, rfl, by decide⟩
  | scalar h =>
    cases htext : (encode v).toList with
    | nil => exact absurd htext (encode_ne_nil h)
    | cons c t =>
      have hc : isTokenChar c = true := encode_chars h c (by rw [htext]; exact List.mem_cons_self)
      have hne : ∀ d, isTokenChar d = false → c ≠ d := by
        rintro d hd rfl
        rw [hc] at hd
        cases hd
      refine ⟨c, t, rfl, ?_, hne _ rfl⟩
      rw [startShape, if_neg (hne _ rfl), if_neg (hne _ rfl), if_neg (hne _ rfl), shape_scalar h]

theorem shape_eq {v w : Value} (hv : IsWritten v) (hw : IsWritten w) {r s : List Char}
    (h : (encode v).toList ++ r = (encode w).toList ++ s) : shape v = shape w := by
  obtain ⟨c, t, hc, hcv, -⟩ := encode_start hv
  obtain ⟨d, u, hd, hdw, -⟩ := encode_start hw
  rw [hc, hd, List.cons_append, List.cons_append] at h
  rw [← hcv, ← hdw, (List.cons.inj h).1]

theorem encode_append_ne_close {v : Value} (h : IsWritten v) (r s : List Char) :
    (encode v).toList ++ r ≠ ']' :: s := by
  obtain ⟨c, t, hc, -, hne⟩ := encode_start h
  rw [hc, List.cons_append]
  exact fun heq => hne (List.cons.inj heq).1

/-- A field is told by its text when its value is. -/
theorem fieldText_append_injective {f g : String × Value} {r s : List Char}
    (hvalue : (encode f.2).toList ++ r = (encode g.2).toList ++ s → f.2 = g.2 ∧ r = s)
    (h : (fieldText f).toList ++ r = (fieldText g).toList ++ s) : f = g ∧ r = s := by
  rw [toList_fieldText, toList_fieldText, List.append_assoc, List.append_assoc] at h
  obtain ⟨hkey, hrest⟩ := encodeString_append_injective h
  obtain ⟨heq, hlast⟩ := hvalue (List.cons.inj (List.cons.inj hrest).2).2
  exact ⟨Prod.ext hkey heq, hlast⟩

/-- **The text of a value tells the value**, whatever follows it. -/
theorem encode_append_injective {v : Value} (hv : IsWritten v) {w : Value} (hw : IsWritten w)
    {r s : List Char} (hr : IsCut r) (hs : IsCut s)
    (h : (encode v).toList ++ r = (encode w).toList ++ s) : v = w ∧ r = s := by
  induction hv generalizing w r s with
  | scalar hscalar =>
    have hshape := shape_eq (.scalar hscalar) hw h
    rw [shape_scalar hscalar] at hshape
    cases hw with
    | scalar hscalar' => exact scalar_append_injective hscalar hscalar' hr hs h
    | _ => cases hshape
  | str a =>
    have hshape := shape_eq (.str a) hw h
    cases hw with
    | scalar hscalar =>
      rw [shape_scalar hscalar] at hshape
      cases hshape
    | str b =>
      rw [encode, encode] at h
      obtain ⟨rfl, hrest⟩ := encodeString_append_injective h
      exact ⟨rfl, hrest⟩
    | _ => cases hshape
  | @list xs hxs ih =>
    have hshape := shape_eq (.list hxs) hw h
    cases hw with
    | scalar hscalar =>
      rw [shape_scalar hscalar] at hshape
      cases hshape
    | @list ys hys =>
      rw [toList_encode_list, toList_encode_list, List.cons_append, List.cons_append,
        List.append_assoc, List.append_assoc] at h
      have hstart : ∀ x ∈ xs ++ ys, ∀ r s, (encode x).toList ++ r ≠ ']' :: s := by
        intro x hx
        rcases List.mem_append.1 hx with hx | hx
        · exact encode_append_ne_close (hxs x hx)
        · exact encode_append_ne_close (hys x hx)
      -- the induction tells the items apart one by one
      obtain ⟨rfl, hrest⟩ := joined_append_injective rfl (by decide)
        (fun x hx y hy r s hr hs h => ih x hx (hys y hy) hr hs h) hstart (List.cons.inj h).2
      exact ⟨rfl, hrest⟩
    | _ => cases hshape
  | @object fs hsorted hfs ih =>
    have hshape := shape_eq (.object hsorted hfs) hw h
    cases hw with
    | scalar hscalar =>
      rw [shape_scalar hscalar] at hshape
      cases hshape
    | @object gs hsorted' hgs =>
      rw [toList_encode_object, toList_encode_object, hsorted, hsorted', List.cons_append,
        List.cons_append, List.append_assoc, List.append_assoc] at h
      -- the keys tell themselves, and the induction tells the values apart
      obtain ⟨rfl, hrest⟩ := joined_append_injective rfl (by decide)
        (fun f hf g hg r s hr hs h =>
          fieldText_append_injective (fun hvalue => ih f hf (hgs g hg) hr hs hvalue) h)
        (fun f _ => fieldText_append_ne_close f) (List.cons.inj h).2
      exact ⟨rfl, hrest⟩
    | _ => cases hshape

/-! ## 6. Mappings -/

/-- A mapping of plain values. -/
def IsPlainMapping (fs : List (String × Value)) : Prop := ∀ f ∈ fs, IsPlain f.2

/-- **The text of a mapping tells its fields**, up to their order, whatever follows it. -/
theorem encodeObject_append_injective {fs gs : List (String × Value)} (hfs : IsPlainMapping fs)
    (hgs : IsPlainMapping gs) {r s : List Char}
    (h : (encode (.object fs)).toList ++ r = (encode (.object gs)).toList ++ s) :
    fs.Perm gs ∧ r = s := by
  have hmem : ∀ {fs : List (String × Value)} {f : String × Value}, f ∈ sortFields fs → f ∈ fs :=
    fun hf => (List.mergeSort_perm _ _).mem_iff.1 hf
  rw [toList_encode_object, toList_encode_object, List.cons_append, List.cons_append,
    List.append_assoc, List.append_assoc] at h
  obtain ⟨hsorted, hrest⟩ := joined_append_injective rfl (by decide)
    (fun f hf g hg r s hr hs h => fieldText_append_injective
      (encode_append_injective (isWritten_of_isPlain (hfs f (hmem hf)))
        (isWritten_of_isPlain (hgs g (hmem hg))) hr hs) h)
    (fun f _ => fieldText_append_ne_close f) (List.cons.inj h).2
  have hf : (sortFields fs).Perm fs := List.mergeSort_perm _ _
  have hg : (sortFields gs).Perm gs := List.mergeSort_perm _ _
  rw [hsorted] at hf
  exact ⟨hf.symm.trans hg, hrest⟩

end Json

end Realty
