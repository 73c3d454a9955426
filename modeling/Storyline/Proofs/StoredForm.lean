import Mathlib.Data.List.Basic
import Storyline.Document.Resolved
import Storyline.Document.Source

/-!
# The stored form loses nothing

A codec is lawful if decoding what it encodes gives the value back, and if what it encodes is exact:
whole numbers of at most 64 bits, and no record that names a field twice. Lists of a lawful type are
lawful, a record is lawful if the types of its fields are, and so is a choice between alternatives.
An optional value needs one fact more: as an absent value is stored as a null, no other value may
be. From spans and identifiers upwards every type of both kinds of goals is lawful, so different
values have different stored forms, and what is read from any document survives being stored again.
-/

namespace Storyline

namespace Document

/-- No number has decimal places or more than 64 bits, and no record names a field twice. -/
inductive Exact : Document → Prop
  | null : Exact .null
  | bool (value : Bool) : Exact (.bool value)
  | int {n : Int} (lower : Int64.minValue.toInt ≤ n) (upper : n < UInt64.size) : Exact (.int n)
  | text (value : String) : Exact (.text value)
  | list {items : List Document} (each : ∀ d ∈ items, Exact d) : Exact (.list items)
  | record {fields : List (String × Document)} (keys : (fields.map Prod.fst).Nodup)
      (each : ∀ f ∈ fields, Exact f.2) : Exact (.record fields)

end Document

class LawfulCodec (α : Type) [Codec α] : Prop where
  decode?_encode (a : α) : decode? (encode a) = some a
  encode_exact (a : α) : (encode a).Exact

class NeverNull (α : Type) [Codec α] : Prop where
  encode_ne_null (a : α) : encode a ≠ .null

export LawfulCodec (decode?_encode encode_exact)
export NeverNull (encode_ne_null)

attribute [simp] decode?_encode encode_exact encode_ne_null

/-! ## Numbers, texts, lists and optional values -/

section Primitive

open Document

variable {α : Type} [Codec α]

instance : LawfulCodec Bool where
  decode?_encode _ := rfl
  encode_exact := .bool

instance : LawfulCodec String where
  decode?_encode _ := rfl
  encode_exact := .text

instance : NeverNull String where
  encode_ne_null s := by intro h; cases h

instance : LawfulCodec UInt32 where
  decode?_encode n := by
    have hn : (encode n).natBelow? UInt32.size = some n.toNat := if_pos n.toNat_lt_size
    calc decode? (encode n)
        = ((encode n).natBelow? UInt32.size).map UInt32.ofNat := rfl
      _ = some (UInt32.ofNat n.toNat) := by rw [hn, Option.map_some]
      _ = some n := by rw [UInt32.ofNat_toNat]
  encode_exact n := by
    have hlower : Int64.minValue.toInt ≤ 0 := by decide
    have hupper : UInt32.size < UInt64.size := by decide
    have hn := n.toNat_lt_size
    exact .int (by omega) (by omega)

instance : NeverNull UInt32 where
  encode_ne_null n := by intro h; cases h

instance : LawfulCodec Int64 where
  decode?_encode n := by
    calc decode? (encode n)
        = if (Int64.ofInt n.toInt).toInt = n.toInt then some (Int64.ofInt n.toInt) else none := rfl
      _ = some n := by rw [Int64.ofInt_toInt, if_pos rfl]
  encode_exact n := by
    have hmax : Int64.maxValue.toInt < UInt64.size := by decide
    exact .int n.minValue_le_toInt (Int.lt_of_le_of_lt n.toInt_le hmax)

instance : NeverNull Int64 where
  encode_ne_null n := by intro h; cases h

instance [LawfulCodec α] : LawfulCodec (List α) where
  decode?_encode as := by
    have hround : decode? ∘ encode = fun a : α => pure (id a) := funext decode?_encode
    calc decode? (encode as)
        = (as.map encode).mapM decode? := rfl
      _ = as.mapM (fun a => pure (id a)) := by rw [List.mapM_map, hround]
      _ = some as := by rw [List.mapM_pure, List.map_id]; rfl
  encode_exact as := .list (by simp)

theorem decode?_of_ne_null {d : Document} (h : d ≠ .null) :
    decode? d = (decode? d : Option α).map some := by
  cases d with
  | null => contradiction
  | _ => rfl

instance [LawfulCodec α] [NeverNull α] : LawfulCodec (Option α) where
  decode?_encode o := by
    cases o with
    | none => rfl
    | some a =>
      calc decode? (encode (some a))
          = (decode? (encode a)).map some := decode?_of_ne_null (encode_ne_null a)
        _ = some (some a) := by rw [decode?_encode, Option.map_some]
  encode_exact o := by
    cases o with
    | none => exact .null
    | some a => exact encode_exact a

end Primitive

/-! ## Fields and alternatives -/

namespace Document

variable {α : Type} [Codec α]

@[simp]
theorem required?_cons (key other : String) (d : Document) (rest : List (String × Document)) :
    ((record ((other, d) :: rest)).required? key : Option α) =
      if key == other then decode? d else (record rest).required? key := by
  cases h : key == other <;> simp [required?, field?, List.lookup_cons, h]

/-- A field that is present is read as an optional value. -/
@[simp]
theorem optional?_cons (key other : String) (d : Document) (rest : List (String × Document)) :
    ((record ((other, d) :: rest)).optional? key : Option (Option α)) =
      if key == other then decode? d else (record rest).optional? key := by
  cases h : key == other with
  | false => simp [optional?, field?, List.lookup_cons, h]
  | true =>
    have hfield : (record ((other, d) :: rest)).field? key = some d := by
      simp [field?, List.lookup_cons, h]
    rw [optional?, hfield, if_pos rfl]
    cases d <;> rfl

@[simp]
theorem tagged?_tagged (name : String) (a : α) :
    (tagged name a).tagged? = some (name, encode a) := rfl

@[simp]
theorem label?_tagged [NeverNull α] (name : String) (a : α) : (tagged name a).label? = none := by
  simp [tagged, label?]

theorem Exact.tagged [LawfulCodec α] (name : String) (a : α) : (tagged name a).Exact :=
  .record (by simp) (by simp)

end Document

/-! ## Spans, identifiers and literals -/

instance : LawfulCodec Span where
  decode?_encode s := by
    unfold instCodecSpan
    simp
  encode_exact s := .record (by simp) (by simp)

instance : LawfulCodec TypeId where
  decode?_encode t := by
    unfold instCodecTypeId
    simp
  encode_exact t := encode_exact t.raw

instance : NeverNull TypeId where
  encode_ne_null t := encode_ne_null t.raw

instance : LawfulCodec GoalId where
  decode?_encode g := by
    unfold instCodecGoalId
    simp
  encode_exact g := encode_exact g.raw

instance : LawfulCodec Symbol where
  decode?_encode s := by
    unfold instCodecSymbol
    simp
  encode_exact s := .record (by simp) (by simp)

instance : LawfulCodec Binary32 where
  decode?_encode x := by
    unfold instCodecBinary32
    simp
  encode_exact x := encode_exact x.bits

instance : NeverNull Binary32 where
  encode_ne_null x := encode_ne_null x.bits

instance : LawfulCodec Relation where
  decode?_encode r := by cases r <;> rfl
  encode_exact r := encode_exact r.tag

instance : LawfulCodec RuleKind where
  decode?_encode k := by cases k <;> rfl
  encode_exact k := encode_exact k.word

instance : LawfulCodec Literal.Kind where
  decode?_encode k := by cases k <;> rfl
  encode_exact k := encode_exact k.tag

instance : LawfulCodec Literal where
  decode?_encode l := by
    unfold instCodecLiteral
    cases l with
    | unknown => rfl
    | integer n => simp [Literal.Kind.tag, Literal.Kind.ofTag?]
    | real x => simp [Literal.Kind.tag, Literal.Kind.ofTag?]
    | text s => simp [Literal.Kind.tag, Literal.Kind.ofTag?]
    | name s => simp [Literal.Kind.tag, Literal.Kind.ofTag?]
  encode_exact l := by
    cases l with
    | unknown => exact encode_exact Literal.Kind.unknown.tag
    | integer n => exact .tagged _ n
    | real x => exact .tagged _ x
    | text s => exact .tagged _ s
    | name s => exact .tagged _ s

/-! ## Source goals -/

namespace Source

instance : LawfulCodec Constant where
  decode?_encode c := by
    unfold instCodecConstant
    simp
  encode_exact c := .record (by simp) (by simp)

instance : LawfulCodec Variable where
  decode?_encode v := by
    unfold instCodecVariable
    simp
  encode_exact v := .record (by simp) (by simp)

instance : LawfulCodec Value where
  decode?_encode v := by
    unfold instCodecValue
    cases v with
    | constant c => simp
    | reference v => simp
  encode_exact v := by
    cases v with
    | constant c => exact .tagged _ c
    | reference v => exact .tagged _ v

instance : LawfulCodec Fact where
  decode?_encode f := by
    unfold instCodecFact
    simp
  encode_exact f := .record (by simp) (by simp)

instance : LawfulCodec Call where
  decode?_encode c := by
    unfold instCodecCall
    simp
  encode_exact c := .record (by simp) (by simp)

instance : LawfulCodec Comparison where
  decode?_encode c := by
    unfold instCodecComparison
    simp
  encode_exact c := .record (by simp) (by simp)

instance : LawfulCodec Condition where
  decode?_encode c := by
    unfold instCodecCondition
    cases c with
    | query c => simp
    | comparison c => simp
  encode_exact c := by
    cases c with
    | query c => exact .tagged _ c
    | comparison c => exact .tagged _ c

instance : LawfulCodec Action where
  decode?_encode a := by
    unfold instCodecAction
    cases a with
    | completion span => simp [Document.tagged?]
    | call c => simp
  encode_exact a := by
    cases a with
    | completion span =>
      have hspan : (Document.record [("span", encode span)]).Exact := .record (by simp) (by simp)
      exact .record (by simp) (by simpa using hspan)
    | call c => exact .tagged _ c

instance : LawfulCodec Rule where
  decode?_encode r := by
    unfold instCodecRule
    simp
  encode_exact r := .record (by simp) (by simp)

instance : LawfulCodec ParentEdge where
  decode?_encode e := by
    unfold instCodecParentEdge
    simp
  encode_exact e := .record (by simp) (by simp)

instance : LawfulCodec Goal where
  decode?_encode g := by
    unfold instCodecGoal
    simp
  encode_exact g := .record (by simp) (by simp)

end Source

/-! ## Resolved goals -/

namespace Resolved

instance : LawfulCodec Constant where
  decode?_encode c := by
    unfold instCodecConstant
    simp
  encode_exact c := .record (by simp) (by simp)

instance : LawfulCodec Variable where
  decode?_encode v := by
    unfold instCodecVariable
    simp
  encode_exact v := .record (by simp) (by simp)

instance : LawfulCodec Value where
  decode?_encode v := by
    unfold instCodecValue
    cases v with
    | constant c => simp
    | reference v => simp
  encode_exact v := by
    cases v with
    | constant c => exact .tagged _ c
    | reference v => exact .tagged _ v

instance : LawfulCodec Fact where
  decode?_encode f := by
    unfold instCodecFact
    simp
  encode_exact f := .record (by simp) (by simp)

instance : LawfulCodec Call where
  decode?_encode c := by
    unfold instCodecCall
    simp
  encode_exact c := .record (by simp) (by simp)

instance : LawfulCodec Comparison where
  decode?_encode c := by
    unfold instCodecComparison
    simp
  encode_exact c := .record (by simp) (by simp)

instance : LawfulCodec Condition where
  decode?_encode c := by
    unfold instCodecCondition
    cases c with
    | query c => simp
    | comparison c => simp
  encode_exact c := by
    cases c with
    | query c => exact .tagged _ c
    | comparison c => exact .tagged _ c

instance : LawfulCodec Action where
  decode?_encode a := by
    unfold instCodecAction
    cases a with
    | completion goal => simp [Document.tagged?]
    | call c => simp
  encode_exact a := by
    cases a with
    | completion goal =>
      have hgoal : (Document.record [("goal", encode goal)]).Exact := .record (by simp) (by simp)
      exact .record (by simp) (by simpa using hgoal)
    | call c => exact .tagged _ c

instance : LawfulCodec Slot where
  decode?_encode s := by
    unfold instCodecSlot
    simp
  encode_exact s := .record (by simp) (by simp)

instance : LawfulCodec Rule where
  decode?_encode r := by
    unfold instCodecRule
    simp
  encode_exact r := .record (by simp) (by simp)

instance : LawfulCodec ParentEdge where
  decode?_encode e := by
    unfold instCodecParentEdge
    simp
  encode_exact e := .record (by simp) (by simp)

instance : LawfulCodec Goal where
  decode?_encode g := by
    unfold instCodecGoal
    simp
  encode_exact g := .record (by simp) (by simp)

end Resolved

/-! ## Stored goals -/

/-- What whoever keeps values of a type in a store relies on. -/
structure Lossless (α : Type) [Codec α] : Prop where
  reads_back (a : α) : decode? (encode a) = some a
  distinct : Function.Injective (encode : α → Document)
  settles {d : Document} {a : α} : decode? d = some a → decode? (encode a) = some a
  exact (a : α) : (encode a).Exact

theorem Lossless.of_lawful {α : Type} [Codec α] [LawfulCodec α] : Lossless α where
  reads_back := decode?_encode
  distinct a b h := by
    have hsome : some a = some b := by rw [← decode?_encode a, h, decode?_encode b]
    exact Option.some.inj hsome
  settles {_ a} _ := decode?_encode a
  exact := encode_exact

theorem stored_forms_lossless :
    (Lossless Span ∧ Lossless TypeId ∧ Lossless GoalId ∧ Lossless Symbol ∧ Lossless Binary32 ∧
      Lossless Relation ∧ Lossless RuleKind ∧ Lossless Literal.Kind ∧ Lossless Literal) ∧
    (Lossless Source.Constant ∧ Lossless Source.Variable ∧ Lossless Source.Value ∧
      Lossless Source.Fact ∧ Lossless Source.Call ∧ Lossless Source.Comparison ∧
      Lossless Source.Condition ∧ Lossless Source.Action ∧ Lossless Source.Rule ∧
      Lossless Source.ParentEdge ∧ Lossless Source.Goal) ∧
    (Lossless Resolved.Constant ∧ Lossless Resolved.Variable ∧ Lossless Resolved.Value ∧
      Lossless Resolved.Fact ∧ Lossless Resolved.Call ∧ Lossless Resolved.Comparison ∧
      Lossless Resolved.Condition ∧ Lossless Resolved.Action ∧ Lossless Resolved.Slot ∧
      Lossless Resolved.Rule ∧ Lossless Resolved.ParentEdge ∧ Lossless Resolved.Goal) := by
  and_intros <;> exact .of_lawful

end Storyline
