import VolumeMigration.Cluster.Store
import VolumeMigration.Manifest
import VolumeMigration.Proofs.Maps
/-!
# Secrets as they are stored

A cluster keeps a Secret as JSON, with its bytes in base64. What it keeps is read
back as it was written (`Object.ofJson?_secret`), whatever the bytes are
(`Text.Base64.decode?_encode`).
-/

namespace VolumeMigration

/-! ## Bytes -/

namespace Text.Base64

theorem value?_digit {n : Nat} (h : n < 64) : value? (digit n) = some n := by
  have hall : ∀ n : Fin 64, value? (digit n) = some n.val := by decide
  exact hall ⟨n, h⟩

/-- No digit is taken for padding. -/
theorem digit_ne_padding {n : Nat} (h : n < 64) : digit n ≠ '=' := by
  have hall : ∀ n : Fin 64, digit n ≠ '=' := by decide
  exact hall ⟨n, h⟩

theorem byte_eq {n : Nat} {b : UInt8} (h : n % 256 = b.toNat) : byte n = b := by
  rw [byte, h, UInt8.ofNat_toNat]

section Groups
variable {x y z w : Nat} (hx : x < 64) (hy : y < 64) (hz : z < 64) (hw : w < 64)

include hx hy in
theorem decode?_one (hrest : y % 16 = 0) :
    decode? [digit x, digit y, '=', '='] = some [byte (x * 4 + y / 16)] := by
  simp [decode?, value?_digit hx, value?_digit hy, hrest]

include hx hy hz in
theorem decode?_two (hrest : z % 4 = 0) : decode? [digit x, digit y, digit z, '='] =
    some [byte (x * 4 + y / 16), byte (y * 16 + z / 4)] := by
  simp [decode?, value?_digit hx, value?_digit hy, value?_digit hz, digit_ne_padding hz, hrest]

include hx hy hz hw in
theorem decode?_three (cs : List Char) : decode? (digit x :: digit y :: digit z :: digit w :: cs) =
    (decode? cs).map fun rest => byte (x * 4 + y / 16) :: byte (y * 16 + z / 4) :: byte (z * 64 + w) :: rest := by
  rw [decode?]
  · rw [value?_digit hx, value?_digit hy, value?_digit hz, value?_digit hw]
    cases decode? cs <;> rfl
  · exact fun h _ => absurd h (digit_ne_padding hz)
  · exact fun h _ => absurd h (digit_ne_padding hw)

end Groups

/-- Bytes are read back as they were written. -/
theorem decode?_encode (bytes : List UInt8) : decode? (encode bytes) = some bytes := by
  induction bytes using encode.induct with
  | case1 => rfl
  | case2 a =>
    have ha := a.toNat_lt
    rw [encode, decode?_one (by omega) (by omega) (by omega), byte_eq (b := a) (by omega)]
  | case3 a b =>
    have ha := a.toNat_lt
    have hb := b.toNat_lt
    rw [encode, decode?_two (by omega) (by omega) (by omega) (by omega), byte_eq (b := a) (by omega),
      byte_eq (b := b) (by omega)]
  | case4 a b c r ih =>
    have ha := a.toNat_lt
    have hb := b.toNat_lt
    have hc := c.toNat_lt
    rw [encode, decode?_three (by omega) (by omega) (by omega) (by omega), ih, Option.map_some,
      byte_eq (b := a) (by omega), byte_eq (b := b) (by omega), byte_eq (b := c) (by omega)]

end Text.Base64

namespace JsonForm

theorem ofJson?_bytes (bytes : List UInt8) : (ofJson? (toJson bytes) : Option (List UInt8)) = some bytes := by
  show Text.Base64.decode? (String.ofList (Text.Base64.encode bytes)).toList = some bytes
  rw [String.toList_ofList, Text.Base64.decode?_encode]

/-- What is made of the members of a list one by one is read back if each is. -/
theorem mapM_map_eq {α β γ : Type} {f : α → β} {g : β → Option γ} {h : α → γ} {l : List α}
    (hread : ∀ a ∈ l, g (f a) = some (h a)) : (l.map f).mapM g = some (l.map h) := by
  induction l with
  | nil => rfl
  | cons a l ih =>
    rw [List.map_cons, List.mapM_cons, hread a List.mem_cons_self, ih fun b hb => hread b (List.mem_cons_of_mem a hb)]
    rfl

/-- A map is read back if its values are. -/
theorem ofJson?_map {α : Type} [JsonForm α] (hvalues : ∀ v : α, ofJson? (toJson v) = some v) (m : SortedMap String α) :
    (ofJson? (toJson m) : Option (SortedMap String α)) = some m := by
  have hentries : (m.toList.map fun e => (e.1, toJson e.2)).mapM (fun f : String × Json =>
      (ofJson? f.2 : Option α).map (f.1, ·)) = some (m.toList.map id) :=
    mapM_map_eq fun e _ => by rw [hvalues e.2]; rfl
  show ((m.toList.map fun e => (e.1, toJson e.2)).mapM fun f : String × Json =>
    (ofJson? f.2 : Option α).map (f.1, ·)).map SortedMap.ofList = some m
  rw [hentries, List.map_id, Option.map_some, SortedMap.ofList_toList]

theorem ofJson?_texts (m : StringMap) : (ofJson? (toJson m) : Option StringMap) = some m :=
  ofJson?_map (fun _ => rfl) m

theorem ofJson?_secretData (data : SecretData) : (ofJson? (toJson data) : Option SecretData) = some data :=
  ofJson?_map ofJson?_bytes data

end JsonForm

namespace Shape

/-- A map fits a shape if its values fit the shape of its values. -/
theorem conform?_map {α : Type} [JsonForm α] {s : Shape}
    (hvalues : ∀ v : α, conform? s (JsonForm.toJson v) = some (JsonForm.toJson v)) (m : SortedMap String α) :
    conform? (.map s) (JsonForm.toJson m) = some (JsonForm.toJson m) := by
  have hentries : (m.toList.map fun e => (e.1, JsonForm.toJson e.2)).mapM (fun f : String × Json =>
      (conform? s f.2).map (f.1, ·)) = some (m.toList.map fun e => (e.1, JsonForm.toJson e.2)) :=
    JsonForm.mapM_map_eq fun e _ => by rw [hvalues e.2]; rfl
  show conform? (.map s) (.obj _) = _
  rw [conform?, hentries]
  rfl

theorem conform?_texts (m : StringMap) : conform? Schema.texts (JsonForm.toJson m) = some (JsonForm.toJson m) :=
  conform?_map (fun v => by rw [show (JsonForm.toJson v : Json) = .str v from rfl, conform?]) m

theorem conform?_secretData (data : SecretData) :
    conform? (.map .bytes) (JsonForm.toJson data) = some (JsonForm.toJson data) :=
  conform?_map (fun bytes => by
    rw [show (JsonForm.toJson bytes : Json) = .str (String.ofList (Text.Base64.encode bytes)) from rfl, conform?,
      String.toList_ofList, Text.Base64.decode?_encode]
    rfl) data

end Shape

namespace Object

variable {n : ObjectName} {labels : StringMap} {data : SecretData} {version : Option String}

/-- The metadata of a manifest under a version. -/
def versioned (n : ObjectName) (labels : StringMap) (version : Option String) : Metadata :=
  { Manifest.metadata n labels with resourceVersion := version }

/-- Its fields in the order in which a cluster keeps them. -/
def versionedFields (n : ObjectName) (labels : StringMap) (version : Option String) : Fields :=
  [("labels", JsonForm.toJson (Label.withManager labels)), ("name", .str n.name), ("namespace", .str n.ns)] ++
    Fields.present "resourceVersion" version

theorem conform?_versioned (n : ObjectName) (labels : StringMap) (version : Option String) :
    Shape.conform? Schema.metadata (JsonForm.toJson (versioned n labels version)) =
      some (.obj (versionedFields n labels version)) := by
  obtain ⟨members, hmembers⟩ : ∃ members, (JsonForm.toJson (Label.withManager labels) : Json) = .obj members := ⟨_, rfl⟩
  have hlabels := Shape.conform?_texts (Label.withManager labels)
  have hgiven : (JsonForm.toJson (versioned n labels version) : Json) =
      .obj ([("name", .str n.name), ("namespace", .str n.ns), ("labels", JsonForm.toJson (Label.withManager labels))] ++
        Fields.present "resourceVersion" version) := by
    cases version <;> rfl
  rw [hmembers] at hlabels hgiven
  rw [hgiven, Schema.metadata, Shape.conform?, versionedFields, hmembers]
  cases version <;>
    simp [Shape.conformFields?, Shape.field, Fields.get?, Fields.present, Fields.opt, hlabels, Shape.conform?,
      JsonForm.toJson]

theorem ofJson?_metadata (fs : Fields) : (JsonForm.ofJson? (.obj fs) : Option Metadata) = (do
    some {
      name := ← fs.optional? "name"
      generateName := ← fs.optional? "generateName"
      ns := ← fs.optional? "namespace"
      labels := ← fs.optional? "labels"
      annotations := ← fs.optional? "annotations"
      resourceVersion := ← fs.optional? "resourceVersion"
      owners := ← fs.optional? "ownerReferences"
      rest := fs.without Metadata.keys }) := rfl

theorem ofJson?_versionedFields (n : ObjectName) (labels : StringMap) (version : Option String) :
    (JsonForm.ofJson? (.obj (versionedFields n labels version)) : Option Metadata) =
      some (versioned n labels version) := by
  have hlabels := JsonForm.ofJson?_texts (Label.withManager labels)
  have htext (s : String) : (JsonForm.ofJson? (JsonForm.toJson s) : Option String) = some s := rfl
  have htext' (s : String) : (JsonForm.ofJson? (.str s) : Option String) = some s := rfl
  rw [ofJson?_metadata]
  cases version <;>
    simp [versionedFields, versioned, Manifest.metadata, Fields.optional?, Fields.get?, Fields.without, Metadata.keys,
      Fields.present, Fields.opt, hlabels, htext, htext']

/-- The fields of a Secret as it is written. -/
def secretFields (n : ObjectName) (labels : StringMap) (data : SecretData) (version : Option String) : Fields :=
  [("apiVersion", .str "v1"), ("kind", .str "Secret"), ("metadata", JsonForm.toJson (versioned n labels version)),
    ("data", JsonForm.toJson data), ("type", .str "Opaque")]

/-- The fields that a cluster keeps of it. -/
def keptFields (n : ObjectName) (labels : StringMap) (data : SecretData) (version : Option String) : Fields :=
  [("metadata", .obj (versionedFields n labels version)), ("data", JsonForm.toJson data), ("type", .str "Opaque")]

theorem conformFields?_secretFields (n : ObjectName) (labels : StringMap) (data : SecretData)
    (version : Option String) :
    Shape.conformFields? (Schema.topFields .secret) (secretFields n labels data version) =
      some (keptFields n labels data version) := by
  obtain ⟨entries, hentries⟩ : ∃ entries, (JsonForm.toJson data : Json) = .obj entries := ⟨_, rfl⟩
  obtain ⟨fields, hfields⟩ : ∃ fields, (JsonForm.toJson (versioned n labels version) : Json) = .obj fields := ⟨_, rfl⟩
  have hmetadata := conform?_versioned n labels version
  have hdata := Shape.conform?_secretData data
  rw [hentries] at hdata
  rw [hfields] at hmetadata
  rw [Schema.topFields, secretFields, keptFields, hentries, hfields]
  simp [Shape.conformFields?, Shape.field, Shape.filled, Fields.get?, hmetadata, hdata, Shape.conform?]

theorem contentOf?_keptFields (n : ObjectName) (labels : StringMap) (data : SecretData) (version : Option String) :
    contentOf? (keptFields n labels data version) .secret = some (.secret (some data) (some "Opaque")) := by
  have hdata : (keptFields n labels data version).optional? "data" = some (some data) := by
    rw [Fields.optional?, show (keptFields n labels data version).get? "data" = some (JsonForm.toJson data) from rfl]
    exact congrArg (Option.map some) (JsonForm.ofJson?_secretData data)
  rw [contentOf?, hdata]
  rfl

/-- A Secret is read back as it was written, whatever its bytes are. -/
theorem ofJson?_secret (n : ObjectName) (labels : StringMap) (data : SecretData) (version : Option String) :
    ofJson? .secret ((Manifest.secret n labels data).withVersion version).toJson =
      some ((Manifest.secret n labels data).withVersion version) := by
  have hjson : ((Manifest.secret n labels data).withVersion version).toJson =
      .obj (secretFields n labels data version) := rfl
  have hchecked : (isCoreKind .secret &&
      !(agrees (secretFields n labels data version) "apiVersion" (Kind.apiVersion .secret) &&
        agrees (secretFields n labels data version) "kind" (Kind.name .secret))) = false := rfl
  have hmetadata : (keptFields n labels data version).value? "metadata" = some (versioned n labels version) :=
    ofJson?_versionedFields n labels version
  rw [hjson, ofJson?]
  simp only [Json.obj?, Option.bind_eq_bind, Option.bind_some, hchecked, Bool.false_eq_true, if_false,
    conformFields?_secretFields, hmetadata, contentOf?_keptFields]
  rfl

end Object

end VolumeMigration
