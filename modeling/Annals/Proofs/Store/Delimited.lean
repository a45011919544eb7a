import Annals.Proofs.Store.Exchange

/-!
# Cut and padded snapshots

Every part of a snapshot says itself where it ends: a number by its width, a text and a list by the
length in front of them, a value by its kind. So what a reader has read does not depend on the
bytes after it, and a reader that needs all the bytes there are has nothing to read in fewer.

* `Snapshot.Delimited` is the law of such a reader. It holds of the readers of single bytes, and
  is handed on to readers that are made of others.
* `Snapshot.takeSnapshot_delimited` is the law for the whole format.
* `Store.import_cut_or_padded` is the result for stores that import what another one exported.
-/

set_option autoImplicit false

namespace Annals

namespace Snapshot

variable {α β : Type}

/-- What was read is read as well where more bytes follow, and these are left over. -/
def Delimited (read : Bytes → Option (α × Bytes)) : Prop :=
  ∀ bytes item rest, read bytes = some (item, rest) →
    ∀ more, read (bytes ++ more) = some (item, rest ++ more)

namespace Delimited

variable {read : Bytes → Option (α × Bytes)}

/-- A reader that takes no bytes is delimited. -/
theorem pure (item : α) : Delimited fun bytes => some (item, bytes) := by
  intro bytes other rest taken more
  simp only [Option.some.injEq, Prod.mk.injEq] at taken
  obtain ⟨rfl, rfl⟩ := taken
  rfl

/-- Of two readers one after the other, the second begins where the first one ended. -/
theorem bind {next : α → Bytes → Option (β × Bytes)} (first : Delimited read)
    (second : ∀ item, Delimited (next item)) :
    Delimited fun bytes => (read bytes).bind fun taken => next taken.1 taken.2 := by
  intro bytes item rest taken more
  obtain ⟨⟨head, middle⟩, before, after⟩ := Option.bind_eq_some_iff.mp taken
  simp only [first bytes head middle before more, Option.bind_some]
  exact second head middle item rest after more

/-- What is made of a reading does not matter to it. -/
theorem map (f : α → β) (delimited : Delimited read) :
    Delimited fun bytes => (read bytes).map fun taken => (f taken.1, taken.2) := by
  intro bytes item rest taken more
  obtain ⟨⟨head, tail⟩, before, same⟩ := Option.map_eq_some_iff.mp taken
  simp only [Prod.mk.injEq] at same
  obtain ⟨rfl, rfl⟩ := same
  simp only [delimited bytes head tail before more, Option.map_some]

/-- A condition on what was read before does not look at the bytes. -/
theorem given (decoded : Option α) {next : α → Bytes → Option (β × Bytes)}
    (delimited : ∀ item, Delimited (next item)) :
    Delimited fun bytes => decoded.bind fun item => next item bytes := by
  cases decoded with
  | none =>
    intro bytes item rest taken
    cases taken
  | some item => exact delimited item

/-- Where all bytes were needed, fewer of them are not read. -/
theorem of_cut (delimited : Delimited read) {bytes cut : Bytes} {item : α}
    (whole : read bytes = some (item, [])) (short : cut <+: bytes) (strict : cut ≠ bytes) :
    read cut = none := by
  obtain ⟨missing, rfl⟩ := short
  have some_missing : missing ≠ [] := by
    intro nothing
    rw [nothing, List.append_nil] at strict
    exact strict rfl
  cases taken : read cut with
  | none => rfl
  | some pair =>
    have longer := delimited cut pair.1 pair.2 taken missing
    rw [whole] at longer
    simp only [Option.some.injEq, Prod.mk.injEq, List.nil_eq, List.append_eq_nil_iff] at longer
    exact absurd longer.2.2 some_missing

end Delimited

/-! ### The format -/

theorem takeNumber_delimited (width : Nat) : Delimited (takeNumber width) := by
  induction width with
  | zero => exact .pure 0
  | succ width ih =>
    intro bytes item rest taken more
    cases bytes with
    | nil => cases taken
    | cons b bytes =>
      exact ih.map (fun n => b.toNat + 256 * n) bytes item rest taken more

theorem takeBytes_delimited (count : Nat) : Delimited (takeBytes count) := by
  induction count with
  | zero => exact .pure []
  | succ count ih =>
    intro bytes item rest taken more
    cases bytes with
    | nil => cases taken
    | cons b bytes => exact ih.map (fun others => b :: others) bytes item rest taken more

theorem takeMany_delimited {read : Bytes → Option (α × Bytes)} (each : Delimited read)
    (count : Nat) : Delimited (takeMany read count) := by
  induction count with
  | zero => exact .pure []
  | succ count ih => exact each.bind fun item => ih.bind fun items => .pure (item :: items)

theorem takeList_delimited {read : Bytes → Option (α × Bytes)} (each : Delimited read) :
    Delimited (takeList read) :=
  (takeNumber_delimited 8).bind fun count => takeMany_delimited each count

theorem takeText_delimited : Delimited takeText :=
  (takeNumber_delimited 8).bind fun count => (takeBytes_delimited count).bind fun taken =>
    .given (String.fromUTF8? ⟨taken.toArray⟩) fun text => .pure text

theorem takeValue_delimited : Delimited takeValue := by
  intro bytes value rest taken more
  obtain ⟨⟨kind, middle⟩, before, after⟩ := Option.bind_eq_some_iff.mp taken
  have first := takeNumber_delimited 4 bytes kind middle before more
  simp only [takeValue, first, Option.bind_eq_bind, Option.bind_some]
  rcases kind with _ | _ | _ | _ | _
  · have int := (takeNumber_delimited 8).map fun n => Value.int (UInt64.ofNat n).toInt64
    exact int middle value rest after more
  · have float := (takeNumber_delimited 8).map fun n => Value.float ⟨UInt64.ofNat n⟩
    exact float middle value rest after more
  · exact takeText_delimited.map Value.str middle value rest after more
  · have time := takeText_delimited.bind fun text =>
      .given (Instant.ofFullText? text) fun t => .pure (Value.time t)
    exact time middle value rest after more
  · cases after

theorem takeEntry_delimited : Delimited takeEntry :=
  takeText_delimited.bind fun name =>
    (takeList_delimited takeValue_delimited).bind fun values => .pure (name, values)

/-- A whole snapshot is delimited. -/
theorem takeSnapshot_delimited : Delimited takeSnapshot :=
  (takeNumber_delimited 4).bind fun version =>
    (takeList_delimited (takeList_delimited takeEntry_delimited)).bind fun facts =>
      .pure (Snapshot.mk version facts)

end Snapshot

namespace Store

variable {s t : Store}

theorem takeSnapshot_exportBytes (fits : s.exportBytes.length < 2 ^ 64) :
    Snapshot.takeSnapshot s.exportBytes = some (s.snapshot.settled, []) := by
  have version : s.snapshot.version < 256 ^ 4 := by
    show Snapshot.currentVersion < 256 ^ 4
    decide
  have taken := Snapshot.restores_snapshot version fits []
  rw [List.append_nil] at taken
  exact taken

/-- An export that was cut short is malformed, wherever it was cut. -/
theorem mapsOfBytes_cut (fits : s.exportBytes.length < 2 ^ 64) {cut : Snapshot.Bytes}
    (short : cut <+: s.exportBytes) (strict : cut ≠ s.exportBytes) :
    mapsOfBytes cut = .error (.snapshot .malformed) := by
  have nothing : Snapshot.takeSnapshot cut = none :=
    Snapshot.takeSnapshot_delimited.of_cut (takeSnapshot_exportBytes fits) short strict
  simp only [mapsOfBytes, Snapshot.ofBytes?_eq, nothing, Option.map_none]

/-- Bytes after an export count for nothing. -/
theorem mapsOfBytes_padded (fits : s.exportBytes.length < 2 ^ 64) (more : Snapshot.Bytes) :
    mapsOfBytes (s.exportBytes ++ more) = mapsOfBytes s.exportBytes := by
  have whole := takeSnapshot_exportBytes fits
  have longer := Snapshot.takeSnapshot_delimited s.exportBytes s.snapshot.settled [] whole more
  simp only [mapsOfBytes, Snapshot.ofBytes?_eq, whole, longer, Option.map_some]

/-- Of what a store exports nothing can be missing: where some of the last bytes are, no store
imports the others, and the store that was to import them is as it was. But anything may follow:
every store imports an export with further bytes after it as it imports the export, with the same
outcome and the same content, be it refused for other reasons or not. -/
theorem import_cut_or_padded (s t : Store) (fits : s.exportBytes.length < 2 ^ 64) :
    (∀ cut, cut <+: s.exportBytes → cut ≠ s.exportBytes →
        t.importBytes cut = (.error (.snapshot .malformed), t))
      ∧ ∀ more, t.importBytes (s.exportBytes ++ more) = t.importBytes s.exportBytes := by
  refine ⟨?_, ?_⟩
  · intro cut short strict
    simp only [importBytes, mapsOfBytes_cut fits short strict]
  · intro more
    simp only [importBytes, mapsOfBytes_padded fits more]

/-- The first half of an export is refused by a store that holds another fact, and the export is
imported by it with a byte after it. -/
theorem import_cut_or_padded_travelled :
    host.importBytes (travelled.exportBytes.take (travelled.exportBytes.length / 2))
        = (.error (.snapshot .malformed), host)
      ∧ (host.importBytes (travelled.exportBytes ++ [0])).1 = .ok ()
      ∧ (host.importBytes (travelled.exportBytes ++ [0])).2.maps = travelledMaps := by
  have fits : travelled.exportBytes.length < 2 ^ 64 := by decide +kernel
  have half : (travelled.exportBytes.take (travelled.exportBytes.length / 2)).length
      ≠ travelled.exportBytes.length := by
    decide +kernel
  have result := import_cut_or_padded travelled host fits
  have cut := result.1 _ (List.take_prefix _ _) fun same => half (congrArg List.length same)
  have allowed : ∀ p ∈ travelled.maps, ∀ name ∈ p.names, name ∉ host.config.reservedNames := by
    decide +kernel
  have imported := importBytes_exportBytes (t := host) travelled_reachable allowed fits
  rw [result.2 [0]]
  exact ⟨cut, imported.1, (imported.2 travelled_regular).trans travelled_maps⟩

end Store

end Annals
