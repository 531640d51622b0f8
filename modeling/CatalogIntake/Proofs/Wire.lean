import CatalogIntake.Product.Entry
import CatalogIntake.Proofs.Chunk
import CatalogIntake.Proofs.Json.Reading
import Mathlib.Data.List.Forall2

/-!
What comes back when a chunk has been sent as JSON text: the same job, number and records, except
that the price may have other places. It is the same number, it is stored or refused alike, and it
is sent on in the same characters.
-/

namespace CatalogIntake

open Number

namespace Json.Fields

variable {α β : Type} {members : Members}

def Finds (fields : Fields α) (members : Members) (a : α) : Prop :=
  fields.ofMembers members = ⟨some a, [], []⟩

theorem Finds.seq {f : Fields (α → β)} {x : Fields α} {g : α → β} {a : α}
    (hf : Finds f members g) (hx : Finds x members a) : Finds (f <*> x) members (g a) := by
  unfold Finds at hf hx ⊢
  change (Fields.seq f x).ofMembers members = _
  simp only [Fields.seq, hf, hx]
  rfl

theorem Finds.map {x : Fields α} {a : α} (g : α → β) (hx : Finds x members a) :
    Finds (g <$> x) members (g a) := Finds.seq (f := Fields.pure g) rfl hx

theorem finds_required {name : String} {decode : Decoder α} {value : Json} {a : α}
    (hthere : lookup? name members = some value) (hsound : decode value = .ok a) :
    Finds (required name decode) members a := by
  unfold Finds required field
  simp only [hthere, hsound]

theorem finds_defaulted {name : String} {decode : Decoder α} {value : Json} {a : α}
    (hthere : lookup? name members = some value) (hsound : nullable decode value = .ok (some a)) :
    Finds (defaulted name decode) members (some a) := by
  unfold Finds defaulted field
  simp only [hthere, hsound]

theorem finds_defaulted_absent {name : String} {decode : Decoder α}
    (hmissing : lookup? name members = none) : Finds (defaulted name decode) members none := by
  unfold Finds defaulted field
  simp only [hmissing]

theorem Finds.record {fields : Fields α} {a : α} (h : Finds fields members a) (name : String) :
    record name fields (.object members) = .ok a := by
  unfold Finds at h
  unfold Json.record
  simp [h, Harvest.firstFault]

end Json.Fields

namespace Json

theorem items_map {α β : Type} {decode : Decoder β} {encode : α → Json} {receive : α → β}
    {values : List α} (h : ∀ a ∈ values, decode (encode a) = .ok (receive a)) :
    items decode (.array (values.map encode)) = .ok (values.map receive) := by
  change (values.map encode).mapM decode = .ok (values.map receive)
  induction values with
  | nil => rfl
  | cons a rest ih =>
    rw [List.map_cons, List.mapM_cons, h a List.mem_cons_self,
      ih fun b hb => h b (List.mem_cons_of_mem a hb)]
    rfl

theorem exactItems_of_forall {values : List Json} (h : ∀ v ∈ values, v.Exact) :
    ExactItems values := by
  induction values with
  | nil => trivial
  | cons v rest ih => exact ⟨h v List.mem_cons_self, ih fun w hw => h w (List.mem_cons_of_mem v hw)⟩

theorem exactMembers_of_forall {members : Members} (h : ∀ m ∈ members, m.2.Exact) :
    ExactMembers members := by
  induction members with
  | nil => trivial
  | cons m rest ih =>
    exact ⟨h m List.mem_cons_self, ih fun w hw => h w (List.mem_cons_of_mem m hw)⟩

theorem integer_exact_of_i32 {n : Int} (h : Width.i32.contains n) : (Json.integer n).Exact := by
  refine .inl (Decimal.contains_i64.mpr ?_)
  unfold Width.contains at h
  rw [Bool.and_eq_true, decide_eq_true_eq, decide_eq_true_eq] at h
  have hleast : Width.i32.least = -2147483648 := rfl
  have hgreatest : Width.i32.greatest = 2147483647 := rfl
  omega

end Json

namespace ProductRecord

structure InRange (r : ProductRecord) : Prop where
  rowNumber : ∀ n, r.rowNumber = some n → Width.i64.contains n
  stock : Width.i32.contains r.stock
  places : Width.i64.contains r.price.scale

def received (r : ProductRecord) : ProductRecord := { r with price := r.price.asPrinted }

theorem exact_toJson {r : ProductRecord} (h : r.InRange) : r.toJson.Exact := by
  apply Json.exactMembers_of_forall
  intro m hm
  rcases List.mem_append.mp hm with hm | hm
  · unfold rowNumberMember at hm
    split at hm
    · cases hm
    · rename_i n hn
      rw [List.mem_singleton.mp hm]
      exact .inl (h.rowNumber n hn)
  · simp only [List.mem_cons, List.not_mem_nil, or_false] at hm
    rcases hm with rfl | rfl | rfl | rfl | rfl | rfl | rfl | rfl | rfl | rfl | rfl | rfl
    case inr.inr.inr.inr.inr.inr.inr.inr.inl => exact Json.integer_exact_of_i32 h.stock
    all_goals trivial

theorem lookup?_rowNumberMember (n? : Option Int) {name : String} (members : Json.Members)
    (h : ("rowNumber" == name) = false) :
    Json.lookup? name (rowNumberMember n? ++ members) = Json.lookup? name members := by
  unfold Json.lookup? rowNumberMember
  cases n? with
  | none => rfl
  | some n => simp [h]

variable {α : Type} {n? : Option Int} {members : Json.Members}

theorem finds_rowNumber (h : ∀ n, n? = some n → Width.i64.contains n)
    (hmissing : Json.lookup? "rowNumber" members = none) :
    Json.Fields.Finds (.defaulted "rowNumber" Json.int64) (rowNumberMember n? ++ members) n? := by
  cases n? with
  | none => exact Json.Fields.finds_defaulted_absent hmissing
  | some n =>
    have hthere : Json.lookup? "rowNumber" (rowNumberMember (some n) ++ members) =
        some (.integer n) := by
      have hfilter : members.filter (·.1 == "rowNumber") = [] := by
        unfold Json.lookup? at hmissing
        simpa using hmissing
      unfold Json.lookup? rowNumberMember
      simp [hfilter]
    refine Json.Fields.finds_defaulted hthere ?_
    have hsound : Json.int64 (.integer n) = .ok n := if_pos (h n rfl)
    unfold Json.nullable
    simp only [hsound]
    rfl

theorem finds_after_rowNumber {name : String} {decode : Json.Decoder α} {value : Json} {a : α}
    (hthere : Json.lookup? name members = some value) (hsound : decode value = .ok a)
    (hname : ("rowNumber" == name) = false) :
    Json.Fields.Finds (.required name decode) (rowNumberMember n? ++ members) a :=
  Json.Fields.finds_required ((lookup?_rowNumberMember n? members hname).trans hthere) hsound

def fieldMembers (r : ProductRecord) : Json.Members :=
  [("internalId", .string r.internalId), ("name", .string r.name),
    ("description", .string r.description), ("brand", .string r.brand),
    ("category", .string r.category), ("price", .string r.price.render),
    ("currency", .string r.currency), ("stock", .integer r.stock), ("ean", .string r.ean),
    ("color", .string r.color), ("size", .string r.size),
    ("availability", .string r.availability)]

theorem decode_toJson {r : ProductRecord} (h : r.InRange) : decode r.toJson = .ok r.received := by
  have hprice : decodePrice (.string r.price.render) = .ok r.price.asPrinted := by
    unfold decodePrice
    simp only [Decimal.read_render r.price h.places]
    rfl
  have hstock : Json.int32 (.integer r.stock) = .ok r.stock := if_pos h.stock
  have hrow : Json.Fields.Finds (.defaulted "rowNumber" Json.int64)
      (rowNumberMember r.rowNumber ++ r.fieldMembers) r.rowNumber :=
    finds_rowNumber h.rowNumber (by rfl)
  have htext {name s : String} (hthere : Json.lookup? name r.fieldMembers = some (.string s))
      (hname : ("rowNumber" == name) = false) :
      Json.Fields.Finds (.required name Json.text)
        (rowNumberMember r.rowNumber ++ r.fieldMembers) s :=
    finds_after_rowNumber hthere rfl hname
  have hfields : Json.Fields.Finds fields (rowNumberMember r.rowNumber ++ r.fieldMembers)
      r.received :=
    ((((((((((((hrow.map ProductRecord.mk).seq (htext (by rfl) (by rfl))).seq
      (htext (by rfl) (by rfl))).seq
      (htext (by rfl) (by rfl))).seq
      (htext (by rfl) (by rfl))).seq
      (htext (by rfl) (by rfl))).seq
      (finds_after_rowNumber (by rfl) hprice (by rfl))).seq
      (htext (by rfl) (by rfl))).seq
      (finds_after_rowNumber (by rfl) hstock (by rfl))).seq
      (htext (by rfl) (by rfl))).seq
      (htext (by rfl) (by rfl))).seq
      (htext (by rfl) (by rfl))).seq
      (htext (by rfl) (by rfl))
  exact hfields.record "ProductRecord"

theorem toJson_received (r : ProductRecord) : r.received.toJson = r.toJson := by
  unfold toJson received
  simp only [Decimal.render_asPrinted]

/-- A record that comes back is stored or refused like the one that was sent. -/
theorem ofRecord_received (r : ProductRecord) :
    Product.ofRecord r.received =
      (Product.ofRecord r).map fun p => { p with price := r.price.asPrinted } := by
  unfold Product.ofRecord received
  simp only [Decimal.normalized_asPrinted, Decimal.render_asPrinted]
  split
  · rfl
  split
  · rfl
  split
  · rfl
  · rfl

def Same (r' r : ProductRecord) : Prop :=
  r' = { r with price := r'.price } ∧ r'.price.value = r.price.value

theorem same_received (r : ProductRecord) : Same r.received r :=
  ⟨rfl, Decimal.value_asPrinted r.price⟩

def StoredAlike (r' r : ProductRecord) : Prop :=
  (∃ p', Product.ofRecord r' = .ok p') ↔ ∃ p, Product.ofRecord r = .ok p

theorem storedAlike_received (r : ProductRecord) : StoredAlike r.received r := by
  unfold StoredAlike
  rw [ofRecord_received]
  cases Product.ofRecord r with
  | error fault =>
    constructor
    · rintro ⟨p', h⟩
      cases h
    · rintro ⟨p, h⟩
      cases h
  | ok p => exact ⟨fun _ => ⟨p, rfl⟩, fun _ => ⟨_, rfl⟩⟩

end ProductRecord

namespace Chunk

structure InRange (c : Chunk) : Prop where
  number : Width.i32.contains c.number
  records : ∀ r ∈ c.records, r.InRange

def received (c : Chunk) : Chunk := { c with records := c.records.map ProductRecord.received }

variable {c : Chunk}

theorem exact_toJson (h : c.InRange) : c.toJson.Exact := by
  apply Json.exactMembers_of_forall
  intro m hm
  simp only [List.mem_cons, List.not_mem_nil, or_false] at hm
  rcases hm with rfl | rfl | rfl
  · trivial
  · exact Json.integer_exact_of_i32 h.number
  · apply Json.exactItems_of_forall
    intro v hv
    obtain ⟨r, hr, rfl⟩ := List.mem_map.mp hv
    exact ProductRecord.exact_toJson (h.records r hr)

theorem decode_toJson (h : c.InRange) : decode c.toJson = .ok c.received := by
  have hnumber : Json.int32 (.integer c.number) = .ok c.number := if_pos h.number
  have hrecords : Json.items ProductRecord.decode
      (.array (c.records.map ProductRecord.toJson)) = .ok c.received.records :=
    Json.items_map fun r hr => ProductRecord.decode_toJson (h.records r hr)
  have hfields : Json.Fields.Finds fields
      [("jobId", .string c.jobId.text), ("chunkNumber", .integer c.number),
        ("products", .array (c.records.map ProductRecord.toJson))] c.received :=
    (((Json.Fields.finds_required (by rfl) (JobId.decode_text c.jobId)).map Chunk.mk).seq
      (Json.Fields.finds_required (by rfl) hnumber)).seq
      (Json.Fields.finds_required (by rfl) hrecords)
  exact hfields.record "ImportChunk"

theorem wire_received (c : Chunk) : c.received.wire = c.wire := by
  unfold wire toJson received
  simp only [List.map_map, Function.comp_def, ProductRecord.toJson_received]

theorem decode_wire (c : Chunk) (h : c.InRange) :
    ∃ json c', Json.read c.wire = some json ∧ decode json = .ok c' ∧
      c'.jobId = c.jobId ∧ c'.number = c.number ∧
      List.Forall₂ ProductRecord.Same c'.records c.records ∧
      List.Forall₂ ProductRecord.StoredAlike c'.records c.records ∧
      c'.wire = c.wire := by
  refine ⟨c.toJson, c.received, Json.read_render (exact_toJson h), decode_toJson h, rfl, rfl,
    ?_, ?_, c.wire_received⟩
  · exact List.forall₂_map_left_iff.mpr
      (List.forall₂_same.mpr fun r _ => r.same_received)
  · exact List.forall₂_map_left_iff.mpr
      (List.forall₂_same.mpr fun r _ => r.storedAlike_received)

section Parcel

/-- Quotation marks, escapes, control characters, and prices in each of the written forms. -/
def parcelRecord (name : String) (rowNumber : Option Int) (price : Decimal) : ProductRecord where
  rowNumber := rowNumber
  internalId := "SKU-\"1\""
  name := name
  description := "a\\b\tc\n"
  brand := ""
  category := "é 日本 😀"
  price := price
  currency := "EUR"
  stock := -5
  ean := String.ofList [Char.ofNat 0, Char.ofNat 31, Char.ofNat 127]
  color := "/"
  size := "[,]:"
  availability := "in_stock"

def parcel : Chunk where
  jobId := ⟨42⟩
  number := 3
  records :=
    [parcelRecord "zero" (some 1) ⟨0, 7⟩, parcelRecord "whole" none ⟨12, -3⟩,
      parcelRecord "small" (some 2) ⟨-15, 20⟩, parcelRecord "large" none ⟨7, -40⟩,
      parcelRecord " " none ⟨12345, 5⟩]

theorem inRange_parcel : parcel.InRange := by
  refine ⟨by decide, ?_⟩
  intro r hr
  simp only [parcel, List.mem_cons, List.not_mem_nil, or_false] at hr
  rcases hr with rfl | rfl | rfl | rfl | rfl
  all_goals exact ⟨by decide, by decide, by decide⟩

theorem decode_wire_parcel : parcel.InRange ∧ ∃ json c',
    Json.read parcel.wire = some json ∧ decode json = .ok c' ∧
      c'.jobId = parcel.jobId ∧ c'.number = parcel.number ∧
      List.Forall₂ ProductRecord.Same c'.records parcel.records ∧
      List.Forall₂ ProductRecord.StoredAlike c'.records parcel.records ∧
      c'.wire = parcel.wire :=
  ⟨inRange_parcel, decode_wire parcel inRange_parcel⟩

end Parcel

end Chunk

end CatalogIntake
