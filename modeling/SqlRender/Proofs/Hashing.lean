import Mathlib.Data.List.Basic
import Mathlib.Tactic.Use
import SqlRender.Proofs.DecimalKeys
import SqlRender.Proofs.FloatEquality
import SqlRender.Value.Compare

/-!
# Hashing and equality

A hash table asks that equal values are hashed alike and that a value is equal to itself.  Values
fall short of both because of the floats in them: the two zeros are equal but have different bits
and different texts, and what is no number is not equal to itself.  Nothing else is in the way
(`Value.digest_of_same`): decimals of different scales, arrays and documents of any depth are
hashed as they are compared.
-/

namespace SqlRender

open Binary64 (OppositeZeros)

/-! ### Sequences that part -/

section

variable {α : Type} {s t : List α}

/-- Two sequences part from each other: behind a common beginning they differ at one place. -/
def Apart (s t : List α) : Prop :=
  ∃ p c d u v, c ≠ d ∧ s = p ++ c :: u ∧ t = p ++ d :: v

theorem Apart.ne (h : Apart s t) :
  s ≠ t
  := by
  obtain ⟨p, c, d, u, v, hne, rfl, rfl⟩ := h
  simp [hne]

theorem Apart.append_left (h : Apart s t) (q : List α) :
  Apart (q ++ s) (q ++ t)
  := by
  obtain ⟨p, c, d, u, v, hne, rfl, rfl⟩ := h
  use q ++ p, c, d, u, v, hne
  simp

theorem Apart.append_right (h : Apart s t) (u v : List α) :
  Apart (s ++ u) (t ++ v)
  := by
  obtain ⟨p, c, d, s', t', hne, rfl, rfl⟩ := h
  use p, c, d, s' ++ u, t' ++ v, hne
  simp

end

/-! ### What shows the signs of zeros -/

/-- No zero in the one list has the other sign than the zero at the same place of the other. -/
def ZerosAgree (xs ys : List Float) : Prop :=
  ∀ p ∈ xs.zip ys, ¬OppositeZeros p.1 p.2

theorem zerosAgree_append {xs ys : List Float} (h : xs.length = ys.length) (xs' ys' : List Float) :
  ZerosAgree (xs ++ xs') (ys ++ ys') ↔ ZerosAgree xs ys ∧ ZerosAgree xs' ys'
  := by
  rw [ZerosAgree, List.zip_append h, List.forall_mem_append]
  rfl

/-- Two sequences show the signs of the zeros among floats: they are the same if the signs agree,
and part from each other otherwise. -/
structure ShowZeros {α : Type} (xs ys : List Float) (s t : List α) : Prop where
  length_eq : xs.length = ys.length
  eq : ZerosAgree xs ys → s = t
  apart : ¬ZerosAgree xs ys → Apart s t

namespace ShowZeros

variable {α : Type} {xs ys xs' ys' : List Float} {s t s' t' : List α}

theorem eq_iff (h : ShowZeros xs ys s t) :
  s = t ↔ ZerosAgree xs ys
  := by
  constructor
  · intro hst
    by_contra hzeros
    exact (h.apart hzeros).ne hst
  · exact h.eq

theorem refl (s : List α) :
  ShowZeros [] [] s s
  := ⟨rfl, fun _ => rfl, fun h => absurd nofun h⟩

theorem append (h : ShowZeros xs ys s t) (h' : ShowZeros xs' ys' s' t') :
  ShowZeros (xs ++ xs') (ys ++ ys') (s ++ s') (t ++ t')
  := by
  constructor
  · rw [List.length_append, List.length_append, h.length_eq, h'.length_eq]
  · rw [zerosAgree_append h.length_eq]
    rintro ⟨hzeros, hzeros'⟩
    rw [h.eq hzeros, h'.eq hzeros']
  · rw [zerosAgree_append h.length_eq]
    intro hnot
    -- what parts in the first pieces stays apart; behind equal pieces the second ones decide
    by_cases hzeros : ZerosAgree xs ys
    · rw [h.eq hzeros]
      apply Apart.append_left
      exact h'.apart fun hzeros' => hnot ⟨hzeros, hzeros'⟩
    · apply Apart.append_right
      exact h.apart hzeros

theorem between (h : ShowZeros xs ys s t) (p q : List α) :
  ShowZeros xs ys (p ++ (s ++ q)) (p ++ (t ++ q))
  := by
  simpa using (refl p).append (h.append (refl q))

/-- Two equal floats, shown by sequences that depend on them. -/
theorem of_beq {x y : Float} (h : (x == y) = true) {f : Float → List α}
    (hzeros : ∀ {x y}, OppositeZeros x y → Apart (f x) (f y)) :
  ShowZeros [x] [y] (f x) (f y)
  := by
  have hagree : ZerosAgree [x] [y] ↔ ¬OppositeZeros x y := by
    simp [ZerosAgree]
  constructor
  · rfl
  · rw [hagree]
    intro hnot
    obtain ⟨rfl, -⟩ | hopposite := Binary64.beq_iff.mp h
    · rfl
    · exact absurd hopposite hnot
  · rw [hagree, not_not]
    exact hzeros

theorem text {s t : String} (h : ShowZeros xs ys s.toList t.toList) :
  ShowZeros xs ys [Value.Datum.text s] [Value.Datum.text t]
  := by
  constructor
  · exact h.length_eq
  · intro hzeros
    rw [String.toList_inj.mp (h.eq hzeros)]
  · intro hzeros
    have hne : s ≠ t := fun hst => (h.apart hzeros).ne (congrArg _ hst)
    exact ⟨[], .text s, .text t, [], [], by simpa using hne, rfl, rfl⟩

theorem joinWith_cons {sep s t : String} {ss ts : List String} (hlength : ss.length = ts.length)
    (h : ShowZeros xs ys s.toList t.toList)
    (hrest : ShowZeros xs' ys' (Text.joinWith sep ss).toList (Text.joinWith sep ts).toList) :
  ShowZeros (xs ++ xs') (ys ++ ys') (Text.joinWith sep (s :: ss)).toList
    (Text.joinWith sep (t :: ts)).toList
  := by
  -- there is a separator behind the first text only if there are further texts, in both lists
  cases ss with
  | nil =>
    obtain rfl := List.length_eq_zero_iff.mp hlength.symm
    simpa [Text.joinWith] using h.append hrest
  | cons s' ss =>
    obtain ⟨t', ts, rfl⟩ := List.exists_cons_of_length_eq_add_one hlength.symm
    simpa [Text.joinWith] using h.append ((refl sep.toList).append hrest)

end ShowZeros

/-! ### Documents -/

namespace Json

mutual

/-- The floats in a document, in the order of its text. -/
def floats : Json → List Float
  | null | bool _ | int _ | string _ => []
  | float x => [x]
  | array items => floatsOfItems items
  | object members => floatsOfMembers members

/-- The floats in the documents of a list. -/
def floatsOfItems : List Json → List Float
  | [] => []
  | j :: rest => floats j ++ floatsOfItems rest

/-- The floats in the documents of a list of members. -/
def floatsOfMembers : List (String × Json) → List Float
  | [] => []
  | (_, j) :: rest => floats j ++ floatsOfMembers rest

end

theorem compact_of_zeroBits {x : Float} {s : Float.Model.UnpackedFloat.Sign}
    (h : x.toBits = Binary64.zeroBits s) :
  (float x).compact = Binary64.zeroText s
  := by
  rw [compact, h, if_pos (Binary64.isFinite_zeroBits s), Binary64.scientific_of_zeroBits h]

/-- The texts of the two zeros differ in their first character. -/
theorem apart_compact_of_oppositeZeros {x y : Float} (h : OppositeZeros x y) :
  Apart (float x).compact.toList (float y).compact.toList
  := by
  obtain ⟨hx, hy⟩ | ⟨hx, hy⟩ := h
  · rw [compact_of_zeroBits (s := .positive) hx, compact_of_zeroBits (s := .negative) hy]
    exact ⟨[], '0', '-', ".0".toList, "0.0".toList, by decide, rfl, rfl⟩
  · rw [compact_of_zeroBits (s := .negative) hx, compact_of_zeroBits (s := .positive) hy]
    exact ⟨[], '-', '0', "0.0".toList, ".0".toList, by decide, rfl, rfl⟩

theorem length_compactItems_of_sameItems : ∀ {as bs : List Json}, sameItems as bs = true →
  (compactItems as).length = (compactItems bs).length
  | [], [], _ => rfl
  | _ :: _, _ :: _, h => by
    rw [sameItems, Bool.and_eq_true] at h
    rw [compactItems, compactItems, List.length_cons, length_compactItems_of_sameItems h.2]
    rfl

theorem length_compactMembers_of_sameMembers : ∀ {as bs : List (String × Json)},
    sameMembers as bs = true →
  (compactMembers as).length = (compactMembers bs).length
  | [], [], _ => rfl
  | (_, _) :: _, (_, _) :: _, h => by
    rw [sameMembers, Bool.and_eq_true] at h
    rw [compactMembers, compactMembers, List.length_cons, length_compactMembers_of_sameMembers h.2]
    rfl

mutual

/-- The texts of equal documents show the signs of the zeros in them. -/
theorem showZeros_compact : ∀ {a b : Json}, a.same b = true →
  ShowZeros a.floats b.floats a.compact.toList b.compact.toList
  | .null, .null, _ => .refl _
  | .bool _, .bool _, h | .int _, .int _, h | .string _, .string _, h => by
    obtain rfl := eq_of_beq h
    exact .refl _
  | .float _, .float _, h => .of_beq h apart_compact_of_oppositeZeros
  | .array as, .array bs, h => by
    simpa [compact, floats] using (showZeros_compactItems h).between ['['] [']']
  | .object as, .object bs, h => by
    simpa [compact, braced, floats] using (showZeros_compactMembers h).between ['\x7b'] ['\x7d']

theorem showZeros_compactItems : ∀ {as bs : List Json}, sameItems as bs = true →
  ShowZeros (floatsOfItems as) (floatsOfItems bs) (Text.joinWith "," (compactItems as)).toList
    (Text.joinWith "," (compactItems bs)).toList
  | [], [], _ => .refl _
  | a :: as, b :: bs, h => by
    rw [sameItems, Bool.and_eq_true] at h
    apply ShowZeros.joinWith_cons
    · apply length_compactItems_of_sameItems h.2
    · apply showZeros_compact h.1
    · apply showZeros_compactItems h.2

theorem showZeros_compactMembers : ∀ {as bs : List (String × Json)}, sameMembers as bs = true →
  ShowZeros (floatsOfMembers as) (floatsOfMembers bs)
    (Text.joinWith "," (compactMembers as)).toList (Text.joinWith "," (compactMembers bs)).toList
  | [], [], _ => .refl _
  | (m, a) :: as, (n, b) :: bs, h => by
    rw [sameMembers, Bool.and_eq_true, Bool.and_eq_true] at h
    obtain ⟨⟨hname, hvalue⟩, hrest⟩ := h
    obtain rfl := eq_of_beq hname
    apply ShowZeros.joinWith_cons
    · apply length_compactMembers_of_sameMembers hrest
    · simpa using (showZeros_compact hvalue).between (quoted m ++ ":").toList []
    · apply showZeros_compactMembers hrest

end

mutual

theorem same_self_iff : ∀ j : Json,
  j.same j = true ↔ ∀ x ∈ j.floats, x.isNaN = false
  | .null | .bool _ | .int _ | .string _ => by simp [same, floats]
  | .float x => by
    rw [same, floats, List.forall_mem_singleton]
    exact Binary64.beq_self_iff
  | .array items => by
    rw [same, floats]
    exact sameItems_self_iff items
  | .object members => by
    rw [same, floats]
    exact sameMembers_self_iff members

theorem sameItems_self_iff : ∀ items : List Json,
  sameItems items items = true ↔ ∀ x ∈ floatsOfItems items, x.isNaN = false
  | [] => by simp [sameItems, floatsOfItems]
  | j :: rest => by
    rw [sameItems, floatsOfItems, Bool.and_eq_true, List.forall_mem_append, same_self_iff j,
      sameItems_self_iff rest]

theorem sameMembers_self_iff : ∀ members : List (String × Json),
  sameMembers members members = true ↔ ∀ x ∈ floatsOfMembers members, x.isNaN = false
  | [] => by simp [sameMembers, floatsOfMembers]
  | (name, j) :: rest => by
    rw [sameMembers, floatsOfMembers, BEq.rfl, Bool.true_and, Bool.and_eq_true,
      List.forall_mem_append, same_self_iff j, sameMembers_self_iff rest]

end

end Json

/-! ### Values -/

namespace Value

mutual

/-- The floats in a value, in the order in which they are hashed. -/
def floats : Value → List Float
  | float x => [x]
  | json j => j.floats
  | array items => floatsOfItems items
  | int _ | uint _ | decimal _ | string _ | boolean _ | uuid _ | bytes _ | date _ | dateTime _
  | timestamp _ | null => []

/-- The floats in the values of a list. -/
def floatsOfItems : List Value → List Float
  | [] => []
  | v :: rest => floats v ++ floatsOfItems rest

end

/-- Floats of different bits are hashed differently. -/
theorem apart_digest_of_oppositeZeros {x y : Float} (h : OppositeZeros x y) :
  Apart (float x).digest (float y).digest
  := by
  refine ⟨[.kind 2], .number x.toBits.toNat, .number y.toBits.toNat, [], [], ?_, rfl, rfl⟩
  obtain ⟨hx, hy⟩ | ⟨hx, hy⟩ := h
  · rw [hx, hy]
    decide
  · rw [hx, hy]
    decide

/-- Whether a value is equal to one value only: there are no floats and no decimals in it. -/
def isRigid : Value → Bool
  | float _ | decimal _ | json _ | array _ => false
  | int _ | uint _ | string _ | boolean _ | uuid _ | bytes _ | date _ | dateTime _ | timestamp _
  | null => true

theorem eq_of_same {a b : Value} (hrigid : a.isRigid = true) (h : a.same b = true) :
  a = b
  := by
  cases a with
  | float | decimal | json | array => cases hrigid
  | null =>
    cases b with
    | null => rfl
    | _ => cases h
  | int | uint | string | boolean | uuid | bytes | date | dateTime | timestamp =>
    cases b <;> simp [same] at h
    rw [h]

theorem length_eq_of_sameItems : ∀ {as bs : List Value}, sameItems as bs = true →
  as.length = bs.length
  | [], [], _ => rfl
  | _ :: _, _ :: _, h => by
    rw [sameItems, Bool.and_eq_true] at h
    rw [List.length_cons, length_eq_of_sameItems h.2]
    rfl

theorem showZeros_of_isRigid {a b : Value} (hrigid : a.isRigid = true) (h : a.same b = true) :
  ShowZeros a.floats b.floats a.digest b.digest
  := by
  obtain rfl := eq_of_same hrigid h
  have hfloats : a.floats = [] := by
    cases a with
    | float | decimal | json | array => cases hrigid
    | _ => rfl
  rw [hfloats]
  exact .refl _

mutual

/-- The data by which equal values are hashed show the signs of the zeros in them. -/
theorem showZeros_digest : ∀ {a b : Value}, a.same b = true →
  ShowZeros a.floats b.floats a.digest b.digest
  | .int _, _, h | .uint _, _, h | .string _, _, h | .boolean _, _, h | .uuid _, _, h
  | .bytes _, _, h | .date _, _, h | .dateTime _, _, h | .timestamp _, _, h | .null, _, h =>
    showZeros_of_isRigid rfl h
  | .float x, b, h => by
    cases b with
    | float y => exact .of_beq h apart_digest_of_oppositeZeros
    | _ => cases h
  | .decimal x, b, h => by
    cases b with
    | decimal y =>
      rw [digest, digest, Decimal.digitKey_of_same h]
      exact .refl _
    | _ => cases h
  | .json j, b, h => by
    cases b with
    | json j' =>
      rw [same] at h
      exact (ShowZeros.refl [Datum.kind 6]).append (Json.showZeros_compact h).text
    | _ => cases h
  | .array items, b, h => by
    cases b with
    | array items' =>
      rw [digest, digest, length_eq_of_sameItems h]
      exact (ShowZeros.refl [_, _]).append (showZeros_digestItems h)
    | _ => cases h

theorem showZeros_digestItems : ∀ {as bs : List Value}, sameItems as bs = true →
  ShowZeros (floatsOfItems as) (floatsOfItems bs) (digestItems as) (digestItems bs)
  | [], [], _ => .refl _
  | _ :: _, _ :: _, h => by
    rw [sameItems, Bool.and_eq_true] at h
    exact (showZeros_digest h.1).append (showZeros_digestItems h.2)

end

mutual

/-- A value is equal to itself if each float in it is a number. -/
theorem same_self_iff : ∀ v : Value,
  v.same v = true ↔ ∀ x ∈ v.floats, x.isNaN = false
  | .int _ | .uint _ | .string _ | .boolean _ | .uuid _ | .bytes _ | .date _ | .dateTime _
  | .timestamp _ | .null => by simp [same, floats]
  | .float x => by
    rw [same, floats, List.forall_mem_singleton]
    exact Binary64.beq_self_iff
  | .decimal x => by simp [same, floats, Decimal.same_self]
  | .json j => by
    rw [same, floats]
    exact Json.same_self_iff j
  | .array items => by
    rw [same, floats]
    exact sameItems_self_iff items

theorem sameItems_self_iff : ∀ items : List Value,
  sameItems items items = true ↔ ∀ x ∈ floatsOfItems items, x.isNaN = false
  | [] => by simp [sameItems, floatsOfItems]
  | v :: rest => by
    rw [sameItems, floatsOfItems, Bool.and_eq_true, List.forall_mem_append, same_self_iff v,
      sameItems_self_iff rest]

end

/-- Equal values have floats at the same places, and they are hashed alike just if no two of these
are the two zeros.  A value is equal to itself just if all floats in it are numbers. -/
theorem digest_of_same (a b : Value) :
  (a.same b = true →
    a.floats.length = b.floats.length
      ∧ (a.digest = b.digest ↔ ∀ p ∈ a.floats.zip b.floats, ¬OppositeZeros p.1 p.2))
    ∧ (a.same a = true ↔ ∀ x ∈ a.floats, x.isNaN = false)
  := by
  constructor
  · intro h
    have hzeros := showZeros_digest h
    exact ⟨hzeros.length_eq, hzeros.eq_iff⟩
  · exact same_self_iff a

/-- A price, and a document with a rate. -/
def pricedAt (price : Decimal) (rate : Float) : Value :=
  .array [.decimal price, .json (.array [.float rate])]

/-- What is no number. -/
def noNumber : Float :=
  Float.ofBits 0x7ff8000000000000

/-- Prices of different scales are equal and hashed alike.  Rates that are the two zeros are equal
too, but hashed differently, and a rate that is no number is not equal to itself. -/
theorem digest_of_same_pricedAt :
  ((pricedAt ⟨15, 1⟩ 0.5).same (pricedAt ⟨150, 2⟩ 0.5) = true
      ∧ (pricedAt ⟨15, 1⟩ 0.5).digest = (pricedAt ⟨150, 2⟩ 0.5).digest)
    ∧ ((pricedAt ⟨15, 1⟩ 0.0).same (pricedAt ⟨15, 1⟩ (-0.0)) = true
      ∧ (pricedAt ⟨15, 1⟩ 0.0).digest ≠ (pricedAt ⟨15, 1⟩ (-0.0)).digest)
    ∧ (pricedAt ⟨15, 1⟩ noNumber).same (pricedAt ⟨15, 1⟩ noNumber) ≠ true
  := by
  have hscales : (pricedAt ⟨15, 1⟩ 0.5).same (pricedAt ⟨150, 2⟩ 0.5) = true := by decide
  have hzeros : (pricedAt ⟨15, 1⟩ 0.0).same (pricedAt ⟨15, 1⟩ (-0.0)) = true := by decide
  obtain ⟨-, hdigest⟩ := (digest_of_same _ _).1 hscales
  obtain ⟨-, hdigest'⟩ := (digest_of_same _ _).1 hzeros
  refine ⟨⟨hscales, hdigest.mpr (by decide)⟩, ⟨hzeros, ?_⟩, ?_⟩
  · rw [Ne, hdigest']
    decide
  · rw [Ne, (digest_of_same (pricedAt ⟨15, 1⟩ noNumber) .null).2]
    decide

end Value

end SqlRender
