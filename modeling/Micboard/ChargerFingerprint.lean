import Micboard.ChargerCycle

/-! What the fingerprint of a charger inventory tells apart before it is hashed. The bytes determine
the bounded fields of every entry and are determined by them; entries whose fields the bounding
leaves as they are can be read back from the bytes, whatever the fields contain. -/

namespace Micboard.ChargerPollingService

open Library.Text Library.Sha256

/-- An inventory entry whose identity fields are text. -/
structure InventoryEntry where
  apiDeviceId : String
  model : String
  deviceType : String
  deriving DecidableEq, Repr

def InventoryEntry.row (entry : InventoryEntry) : Option ChargerDevice :=
  some {
    apiDeviceId := .text entry.apiDeviceId
    model := .text entry.model
    deviceType := .text entry.deviceType }

section Bounded

variable (isPrintable : Char → Bool)

def InventoryEntry.bounded (entry : InventoryEntry) : InventoryEntry where
  apiDeviceId := boundedText isPrintable (.text entry.apiDeviceId) 255
  model := boundedText isPrintable (.text entry.model) 255
  deviceType := boundedText isPrintable (.text entry.deviceType) 255

structure BoundedEntry where
  entry : InventoryEntry
  bounded : entry.bounded isPrintable = entry

/-- What is hashed of a sequence of entries. -/
def entryBytes (entries : List InventoryEntry) : List Nat :=
  inventoryBytes isPrintable (entries.map InventoryEntry.row)

/-- The bytes of an inventory depend on nothing but the identities of its rows. -/
theorem inventoryBytes_eq_iff {items items' : List (Option ChargerDevice)} :
    inventoryBytes isPrintable items = inventoryBytes isPrintable items' ↔
      items.map (identityOf isPrintable) = items'.map (identityOf isPrintable) := by
  refine ⟨identities_eq_of_inventoryBytes_eq isPrintable, fun h => ?_⟩
  have hbytes : ∀ items : List (Option ChargerDevice), inventoryBytes isPrintable items =
      encode (String.ofList (decimal (items.map (identityOf isPrintable)).length)) ++
        (items.map (identityOf isPrintable)).flatMap identityBytes := by
    intro items
    rw [inventoryBytes, List.length_map, List.flatMap_map]
  rw [hbytes, hbytes, h]

/-- The identity of the row of an entry with bounded fields. -/
def InventoryEntry.identity (entry : InventoryEntry) : Nat × String × String × String :=
  (77, entry.apiDeviceId, entry.model, entry.deviceType)

theorem InventoryEntry.identity_injective : Function.Injective InventoryEntry.identity := by
  rintro ⟨apiDeviceId, model, deviceType⟩ ⟨apiDeviceId', model', deviceType'⟩ heq
  simpa [identity] using heq

theorem map_identityOf_row (entries : List InventoryEntry) :
    (entries.map InventoryEntry.row).map (identityOf isPrintable) =
      (entries.map (InventoryEntry.bounded isPrintable)).map InventoryEntry.identity := by
  rw [List.map_map, List.map_map]
  rfl

theorem entryBytes_eq_iff (entries entries' : List InventoryEntry) :
    entryBytes isPrintable entries = entryBytes isPrintable entries' ↔
      entries.map (InventoryEntry.bounded isPrintable) =
        entries'.map (InventoryEntry.bounded isPrintable) := by
  rw [entryBytes, entryBytes, inventoryBytes_eq_iff, map_identityOf_row, map_identityOf_row]
  exact (List.map_injective_iff.mpr InventoryEntry.identity_injective).eq_iff

theorem BoundedEntry.entry_injective :
    Function.Injective (BoundedEntry.entry : BoundedEntry isPrintable → InventoryEntry) := by
  rintro ⟨entry, -⟩ ⟨entry', -⟩ rfl
  rfl

theorem BoundedEntry.map_bounded (entries : List (BoundedEntry isPrintable)) :
    (entries.map BoundedEntry.entry).map (InventoryEntry.bounded isPrintable) =
      entries.map BoundedEntry.entry := by
  rw [List.map_map]
  exact List.map_congr_left fun entry _ => entry.bounded

/-- **The bytes under the fingerprint of two sequences of entries are equal exactly if the sequences
have the same bounded fields, entry by entry. Sequences that the bounding leaves as they are have
different bytes unless they are equal.** -/
theorem entryBytes_injective :
    (∀ entries entries' : List InventoryEntry,
      entryBytes isPrintable entries = entryBytes isPrintable entries' ↔
        entries.map (InventoryEntry.bounded isPrintable) =
          entries'.map (InventoryEntry.bounded isPrintable)) ∧
      Function.Injective fun entries : List (BoundedEntry isPrintable) =>
        entryBytes isPrintable (entries.map BoundedEntry.entry) := by
  refine ⟨entryBytes_eq_iff isPrintable, fun entries entries' heq => ?_⟩
  have hbounded := (entryBytes_eq_iff isPrintable _ _).mp heq
  rw [BoundedEntry.map_bounded, BoundedEntry.map_bounded] at hbounded
  exact List.map_injective_iff.mpr (BoundedEntry.entry_injective isPrintable) hbounded

end Bounded

/-- Two chargers whose ids and models are the same characters, cut elsewhere. -/
def wideId : BoundedEntry asciiPrintable := ⟨⟨"dev-1S", "BC220", "charger"⟩, by decide⟩

def wideModel : BoundedEntry asciiPrintable := ⟨⟨"dev-1", "SBC220", "charger"⟩, by decide⟩

theorem entryBytes_injective_cut : entryBytes asciiPrintable
    ([wideId, wideModel].map BoundedEntry.entry) ≠
    entryBytes asciiPrintable ([wideModel, wideId].map BoundedEntry.entry) := by
  intro heq
  have hsame : [wideId, wideModel] = [wideModel, wideId] := (entryBytes_injective asciiPrintable).2 heq
  have hid := congrArg (fun entries => entries.map fun bounded => bounded.entry.apiDeviceId) hsame
  exact absurd hid (by decide)

/-- A trailing blank of an id is within the bound of the field and does not reach the hash. -/
theorem entryBytes_collide : ¬∀ (isPrintable : Char → Bool) (entries entries' : List InventoryEntry),
    (∀ entry ∈ entries ++ entries', entry.apiDeviceId.length ≤ 255 ∧ entry.model.length ≤ 255 ∧
      entry.deviceType.length ≤ 255) →
    entryBytes isPrintable entries = entryBytes isPrintable entries' → entries = entries' := by
  intro h
  have hcollision : entryBytes asciiPrintable [⟨"a", "SBC220", "charger"⟩] =
      entryBytes asciiPrintable [⟨"a ", "SBC220", "charger"⟩] := by
    rw [entryBytes_eq_iff]
    decide +kernel
  exact absurd (h _ _ _ (by decide) hcollision) (by decide)

end Micboard.ChargerPollingService
