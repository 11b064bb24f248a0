import Writeback.Proofs.Merge.Fields

/-!
# Updates that are taken at a root

An update at a root brings the whole local version of the root, while only the field below it was
compared. On the way to the field and below it nothing is reverted that only the server changed: on
the way the two sides would differ at the field too, and below it the server has the loaded or the
local version. What stands beside the field comes along from the local version, whatever the server
has there.
-/

namespace Writeback

open Json

/-- Whether the arrays of a document have room for a value at a path; a removal needs none. -/
def Json.HasRoom (document : Json) (path : String) (update : Option Json) : Prop :=
  ∀ x ∈ update, takes (some x) (segments path) (some document) = true

instance (document : Json) (path : String) (update : Option Json) :
    Decidable (document.HasRoom path update) :=
  inferInstanceAs (Decidable (∀ x ∈ update, _))

section Written

variable {document : Json} (h : document.Ordered) {path : String} {update : Option Json}
include h

/-- Below the place of an update a document has what the update has there. -/
theorem Json.get?_set_below (room : document.HasRoom path update) {below : String}
    {rest : List String} (ne : rest ≠ []) (split : segments below = segments path ++ rest) :
    (document.set path update).get? below = lookup update rest := by
  rw [get?_eq_lookup, some_set, split]
  cases update with
  | none => exact lookup_edit_none h.place (segments path) ne
  | some x => rw [lookup_append, lookup_edit_self h.place (room x rfl)]

theorem Json.set_of_not_hasRoom (full : ¬ document.HasRoom path update) :
    document.set path update = document := by
  cases update with
  | none => exact absurd (fun x there => nomatch there) full
  | some x =>
    have closed : takes (some x) (segments path) (some document) = false := by
      by_contra room
      refine full fun y there => ?_
      cases there
      exact Bool.of_not_eq_false room
    apply Option.some.inj
    rw [some_set]
    exact edit_of_not_takes h.place closed

end Written

/-- The document after the update of a field was written at a root. A change that only the server
made under the root stays on the way to the field and below it, and everywhere when there is no
update. Beside the field an update brings the local version, unless it is a value that finds no room
in the server's arrays and is not written at all. -/
theorem root_update_keeps_remote_change {base current remote : Json} (hb : base.Ordered)
    (hc : current.Ordered) (hr : remote.Ordered) {key root path : String}
    (above : segments root <+: segments key) (below : segments root <+: segments path)
    (changed : deepEq (base.get? path) (remote.get? path) = false)
    (same : deepEq (base.get? path) (current.get? path) = true) :
    let resolution := resolveField base current remote key (some root)
    let result := resolution.applyTo remote
    (segments path <+: segments key ∨ segments key <+: segments path →
        deepEq (result.get? path) (remote.get? path) = true) ∧
      (resolution.update = none → result = remote) ∧
      (resolution.update ≠ none →
        if remote.HasRoom root (current.get? root) then result.get? path = current.get? path
        else result = remote) := by
  intro resolution result
  have self : deepEq (remote.get? path) (remote.get? path) = true :=
    equal_at? hr (equal_refl hr) _
  by_cases safe : SafelyEdited (base.get? key) (current.get? key) (remote.get? key)
  · have update : resolution.update = some ⟨root, current.get? root⟩ :=
      update_of_safelyEdited (some root) safe
    have written : result = remote.set root (current.get? root) :=
      FieldResolution.applyTo_of_update update remote
    have off : ¬ segments path <+: segments key := Snapshot.not_prefix_of_edited hb same safe.1
    obtain ⟨rest, split⟩ := below
    have ne : rest ≠ [] := by
      rintro rfl
      rw [List.append_nil] at split
      exact off (split ▸ above)
    have read : if remote.HasRoom root (current.get? root) then
        result.get? path = current.get? path else result = remote := by
      rw [written]
      split
      · next room =>
        rw [get?_set_below hr room ne split.symm, ← Snapshot.get?_of_append split.symm]
      · next full => exact set_of_not_hasRoom hr full
    refine ⟨fun along => ?_, fun none => ?_, fun _ => read⟩
    · obtain ⟨further, inside⟩ := along.resolve_left off
      split at read
      · rw [read]
        exact Snapshot.equal_below_safelyEdited hb hc safe inside.symm changed
      · rw [read]
        exact self
    · rw [update] at none
      cases none
  · have update : resolution.update = none := update_of_not_safelyEdited (some root) safe
    have kept : result = remote := FieldResolution.applyTo_of_none update remote
    exact ⟨fun _ => kept ▸ self, fun _ => kept, fun offered => absurd update offered⟩

/-- The name of the first person was edited, and the server changed the mail address beside it or
removed the person: the address comes from the local version, or nothing is written. -/
theorem root_update_of_first_person :
    let card (people : List (String × String)) : Json :=
      .obj [("people", .arr (people.map fun person =>
        .obj [("email", .str person.1), ("name", .str person.2)]))]
    let base := card [("a@x", "Ann")]
    let current := card [("a@x", "Bea")]
    let moved := card [("a@y", "Ann"), ("c@x", "Cid")]
    let result (remote : Json) : Json :=
      (resolveField base current remote "people.0.name" (some "people.0")).applyTo remote
    base.Ordered ∧ current.Ordered ∧ moved.Ordered ∧
      segments "people.0" <+: segments "people.0.name" ∧
      segments "people.0" <+: segments "people.0.email" ∧
      (result moved).get? "people.0.email" = current.get? "people.0.email" ∧
      result (card []) = card [] := by
  intro card base current moved result
  have hb : base.Ordered := by decide
  have hc : current.Ordered := by decide
  have hr : moved.Ordered := by decide
  have above : segments "people.0" <+: segments "people.0.name" := by decide
  have below : segments "people.0" <+: segments "people.0.email" := by decide
  obtain ⟨-, -, offered⟩ :=
    root_update_keeps_remote_change hb hc hr above below (by decide) (by decide)
  have removed : (card []).Ordered := by decide
  obtain ⟨-, unoffered, -⟩ :=
    root_update_keeps_remote_change hb hc removed above below (by decide) (by decide)
  have read := offered (by decide)
  rw [if_pos (by decide)] at read
  exact ⟨hb, hc, hr, above, below, read, unoffered (by decide)⟩

/-- An update that is offered without a conflict and reverts what only the server changed under its
root. -/
def RevertsRemote (base current remote : Json) (key root path : String) : Prop :=
  let resolution := resolveField base current remote key (some root)
  base.Ordered ∧ current.Ordered ∧ remote.Ordered ∧ segments root <+: segments key ∧
    segments root <+: segments path ∧
    deepEq (base.get? path) (remote.get? path) = false ∧
    deepEq (base.get? path) (current.get? path) = true ∧ resolution.conflict = false ∧
    deepEq ((resolution.applyTo remote).get? path) (remote.get? path) = false

/-- The name of the owner was edited, and the server changed the mail address beside it. -/
theorem reverts_beside_edited_name :
    let card (email name : String) : Json :=
      .obj [("owner", .obj [("email", .str email), ("name", .str name)])]
    RevertsRemote (card "a@x" "Ann") (card "a@x" "Bea") (card "a@y" "Ann") "owner.name" "owner"
      "owner.email" := by
  unfold RevertsRemote
  decide

end Writeback
