import Writeback.Proofs.Queue.Answers
import Writeback.Proofs.Queue.Rest
import Writeback.Queue.Shutdown

/-!
# How far a crash reaches

A save of a bucket is cancelled when a crash cuts it short: when a serialization in its own batch
crashes, when one in a later batch does while its answer is held and nothing is pending, or when
the hook of a save at or before its position crashes as the held answers are handed back. All
others go by their own answers as if nothing had crashed, so that one of them is cancelled only if
its own hook returns just that error. What was pending when a cycle was cut short is taken by a
later one.
-/

namespace Writeback

/-- What comes no earlier than `x` in a part of a list that repeats nothing, comes no earlier in the
list. -/
theorem mem_cons_of_sublist {α : Type} {front back part : List α} {x y : α} {p q : Nat}
    (nodup : (front ++ x :: back).Nodup) (sub : part.Sublist (front ++ x :: back))
    (at_p : part[p]? = some x) (at_q : part[q]? = some y) (le : p ≤ q) : y ∈ x :: back := by
  have apart : x ∉ front := fun mem =>
    (List.nodup_append'.mp nodup).2.2 mem List.mem_cons_self
  have later : y ∈ part.drop p := by
    refine List.mem_iff_getElem?.mpr ⟨q - p, ?_⟩
    rw [List.getElem?_drop, Nat.add_sub_cancel' le, at_q]
  have head : (part.drop p)[0]? = some x := by rw [List.getElem?_drop, Nat.add_zero, at_p]
  obtain ⟨first, rest, split, in_front, in_back⟩ :=
    List.sublist_append_iff.mp ((List.drop_sublist p part).trans sub)
  rw [split] at head later
  cases first with
  | nil => exact in_back.subset later
  | cons z first =>
    obtain rfl : z = x := by simpa using head
    exact absurd (in_front.subset List.mem_cons_self) apart

namespace Queue

namespace Workload

variable {limit : Nat} {w w' : Workload} {supply : Nat → Saveable} {key : BucketKey} {save : Save}

/-- Nothing more is reported of a save that ended. -/
theorem Steps.reportsOf_eq (steps : Steps limit w w') (h : Reachable limit w)
    (calm : w'.Undisturbed supply) (ended : save ∈ w.ended) :
    save ∈ w'.ended ∧ reportsOf save w'.events = reportsOf save w.events := by
  induction steps with
  | refl => exact ⟨ended, rfl⟩
  | @tail u v before step ih =>
    obtain ⟨still, same⟩ := ih (step.undisturbed calm)
    obtain ⟨news, events, tells⟩ := step.tells (h.steps before) (step.undisturbed calm)
    refine ⟨Ledger.mem_ended_of_append events still, ?_⟩
    rw [events, reportsOf_append, (tells save).resolve_right fun ⟨unended, _⟩ => unended still,
      List.append_nil, same]

/-- A save that a step reports on had not ended, and ends. -/
theorem Tells.ended {news : List Event} (tells : Tells supply w w' news)
    (events : w'.events = w.events ++ news) (some : reportsOf save news ≠ []) :
    save ∉ w.ended ∧ save ∈ w'.ended := by
  obtain ⟨unended, justified⟩ := (tells save).resolve_left some
  obtain ⟨result, settled⟩ := justified.exists_settled
  refine ⟨unended, Ledger.mem_ended.mpr ⟨result, ?_⟩⟩
  exact events ▸ List.mem_append_right _ (mem_of_mem_reportsOf settled)

/-- A step of a run that reports on saves. -/
structure Moment (limit : Nat) (supply : Nat → Saveable) (w u v : Workload) (news : List Event) :
    Prop where
  reachable : Reachable limit u
  step : Step limit u v
  calm : u.Undisturbed supply
  events : v.events = u.events ++ news
  reports : ∀ e ∈ news, e.isReport = true
  unended : ∀ save, reportsOf save news ≠ [] → save ∉ u.ended
  ended : ∀ save, reportsOf save news ≠ [] → save ∈ v.ended
  later : ∀ save ∈ v.ended, save ∈ w.ended
  /-- All that is reported of a save is reported in one step. -/
  only : ∀ save, reportsOf save news ≠ [] → reportsOf save w.events = reportsOf save news

/-- What is reported of a save was written down by some step of the run. -/
theorem Reachable.exists_moment (h : Reachable limit w) (calm : w.Undisturbed supply)
    {before after : List Event} {e : Event} (split : w.events = before ++ e :: after)
    (report : e.isReport = true) :
    ∃ u v first last, Moment limit supply w u v (first ++ e :: last) ∧
      before = u.events ++ first := by
  obtain ⟨u, v, first, last, reachable, step, steps, past, events⟩ := h.exists_step split
  have calm_v := steps.undisturbed calm
  have calm_u := step.undisturbed calm_v
  obtain ⟨news, same, tells⟩ := step.tells reachable calm_u
  obtain rfl : news = first ++ e :: last := List.append_cancel_left (same.symm.trans events)
  refine ⟨u, v, first, last, ?_, past⟩
  constructor
  · exact reachable
  · exact step
  · exact calm_u
  · exact events
  · exact step.ending.all_reports events (by simp) report
  · exact fun save some => (tells.ended events some).1
  · exact fun save some => (tells.ended events some).2
  · intro save ended
    exact (steps.reportsOf_eq (reachable.step step) calm ended).1
  · intro save some
    obtain ⟨unended, ended⟩ := tells.ended events some
    rw [(steps.reportsOf_eq (reachable.step step) calm ended).2, events, reportsOf_append,
      (reachable.accounted calm_u).reportsOf_eq_nil unended, List.nil_append]

/-- When a step ends a save that was held, it ends all that was held in that bucket. -/
theorem Step.ended_of_held (step : Step limit w w') (h : Reachable limit w)
    {other : Save} (held : other ∈ heldIn key w.events) (ended : other ∈ w'.ended)
    (mem : save ∈ heldIn key w.events) : save ∈ w'.ended := by
  rcases (step.custody h h.held).all_or_none key with none | all
  · by_contra unended
    obtain ⟨⟨batch, request, value, answered, plain, there⟩, -⟩ := mem_heldIn.mp mem
    obtain ⟨news, events⟩ := step.exists_news
    have still : save ∈ heldIn key w'.events := mem_heldIn.mpr
      ⟨⟨batch, request, value, events ▸ List.mem_append_left _ answered, plain, there⟩, unended⟩
    exact absurd still (none ▸ List.not_mem_nil)
  · exact absurd ended (mem_heldIn.mp (all held)).2

/-- In the course of a step that reports on saves, what is held only ends. -/
theorem Moment.heldIn_sublist {u v : Workload} {news first rest : List Event}
    (h : Moment limit supply w u v news) (split : news = first ++ rest) (key : BucketKey) :
    (heldIn key (u.events ++ first)).Sublist (heldIn key u.events) := by
  rw [heldIn_append fun e he => Event.plain?_of_isReport (h.reports e (by simp [split, he]))]
  exact List.filter_sublist

/-- Once held answers are being handed back, nothing that was held stays. -/
theorem Reachable.ended_of_handsBack (h : Reachable limit w) (calm : w.Undisturbed supply)
    {before reports : List Event} (split : w.events = before ++ reports) (some : reports ≠ [])
    (hands : HandsBack key before reports) (mem : save ∈ heldIn key before) : save ∈ w.ended := by
  obtain ⟨e, rest, rfl⟩ := List.exists_cons_of_ne_nil some
  obtain ⟨other, held, about⟩ := hands e List.mem_cons_self
  obtain ⟨u, v, first, last, moment, rfl⟩ :=
    h.exists_moment calm split (Event.isReport_of_reportsOn about)
  have early := (moment.heldIn_sublist rfl key).subset
  have ended := moment.ended other (reportsOf_ne_nil_of_mem (by simp) about)
  exact moment.later save
    (moment.step.ended_of_held moment.reachable (early held) ended (early mem))

/-- The batch of a cycle that was cut short ends by the end of that cycle. -/
theorem Ending.aborts (ending : Ending w w') (h : Reachable limit w) {batch : List Save}
    (failing : .failing key batch ∈ w.underway) (mem : save ∈ batch) {news : List Event}
    (events : w'.events = w.events ++ news) {e : Event} (he : e ∈ news)
    (about : e.reportsOn save = true) :
    ∃ b ∈ w.buckets, b.key = key ∧ heldIn key w.events = b.held.flatMap HeldResponse.batch ∧
      (b.held.flatMap HeldResponse.batch ++ batch).Nodup ∧
      news = ((if b.pending = [] then b.held.flatMap HeldResponse.batch else []) ++ batch).map
        fun save => .settled save (.error .cancelled) := by
  have these {more : List Event} (same : w'.events = w.events ++ more) : news = more :=
    List.append_cancel_left (events.symm.trans same)
  have unheld (other : BucketKey) : save ∉ heldIn other w.events := by
    obtain ⟨rest, hu⟩ := Multiset.exists_cons_of_mem failing
    exact h.held.notMem_of_phase h hu (fun _ => rfl) mem other
  have only (p : Phase) (there : p ∈ w.underway) (in_hand : save ∈ p.saves) :
      Phase.failing key batch = p :=
    h.phase_unique failing there mem in_hand
  have settled {saves : List Save} {result : SaveResult}
      (there : e ∈ saves.map fun save => .settled save result) : save ∈ saves := by
    obtain ⟨other, in_saves, rfl⟩ := List.mem_map.mp there
    exact (of_decide_eq_true about : other = save) ▸ in_saves
  cases ending with
  | quiet same quiet =>
    have none := quiet e (these same ▸ he)
    exact absurd (Event.isReport_of_reportsOn about) (by simp [none])
  | @answered rest cycle answer result hu _ _ same =>
    cases only (.answered cycle answer) (by simp [hu]) (settled (these same ▸ he))
  | @handedBack rest others b response hu hb _ same =>
    obtain ⟨pair, there, said⟩ := List.mem_flatMap.mp (these same ▸ he)
    obtain rfl := Event.eq_of_reportsOn about (w.about_reportsFor _ _ _ e said)
    refine (unheld b.key ?_).elim
    rw [h.heldIn_eq_entries hu hb]
    exact List.mem_map_of_mem there
  | @crashed rest others b response front back first entry payload hu hb split _ _ same =>
    obtain ⟨item, there, said⟩ := List.mem_flatMap.mp (these same ▸ he)
    obtain rfl := Event.eq_of_reportsOn about (Ledger.about_crashReports item there e said)
    have held := List.mem_map_of_mem (f := Prod.fst) there
    refine (unheld b.key ?_).elim
    rw [h.heldIn_of_split hu hb split]
    rwa [Ledger.map_fst_crashReports] at held
  | @aborted rest others b own hu hb same =>
    have line := h.held.heldIn_failing h.tokens hu hb
    have mine : save ∈ own := by
      refine (List.mem_append.mp (settled (these same ▸ he))).resolve_left fun held => ?_
      split at held
      · exact unheld _ (line ▸ held)
      · exact absurd held List.not_mem_nil
    have one := only (.failing b.key own) (by simp [hu]) mine
    obtain ⟨rfl, rfl⟩ : key = b.key ∧ batch = own := by simpa using one
    have nodup := Multiset.coe_nodup.mp (h.unended (load_of_failing hu hb)).1
    exact ⟨b, by simp [hb], rfl, line, nodup, these same⟩
  | @finished rest other reply hu same =>
    obtain rfl : e = .settled other reply.result := by simpa [these same] using he
    obtain rfl : other = save := of_decide_eq_true about
    cases only (.replied other reply) (by simp [hu]) (Multiset.mem_singleton_self other)

/-- A cycle is cut short by a serialization while nothing is pending: what was held is cancelled. -/
theorem Reachable.reports_of_aborted (h : Reachable limit w) (calm : w.Undisturbed supply)
    {before mid after : List Event} {batch : List Save} {other : Save}
    (split : w.events = before ++ .taken key batch ::
      (mid ++ .settled other (.error .cancelled) :: after))
    (spoiled : Spoiled supply batch) (mem : other ∈ batch)
    (empty : pendingIn key (before ++ .taken key batch :: mid) = [])
    (held : save ∈ heldIn key before) : CutReports supply save (reportsOf save w.events) := by
  have whole : w.events = (before ++ .taken key batch :: mid) ++
      .settled other (.error .cancelled) :: after := by
    rw [split, List.append_assoc, List.cons_append]
  obtain ⟨u, v, first, last, moment, past⟩ := h.exists_moment calm whole rfl
  have about : (Event.settled other (.error .cancelled)).reportsOn other = true := by
    simp [Event.reportsOn]
  have here : .settled other (.error .cancelled) ∈
      first ++ .settled other (.error .cancelled) :: last := by simp
  rcases split_append past.symm with ⟨rest, taken⟩ | ⟨front, -, late⟩
  · have there : .taken key batch ∈ u.events := by simp [taken]
    have failing := moment.reachable.failing_of_spoiled moment.calm there spoiled mem
      (moment.unended other (reportsOf_ne_nil_of_mem here about))
    obtain ⟨b, hb, rfl, line, nodup, news⟩ :=
      moment.step.ending.aborts moment.reachable failing mem moment.events here about
    have silent : ∀ e ∈ first, e.isWire = false := fun e he =>
      Event.isWire_of_isReport (moment.reports e (List.mem_append_left _ he))
    rw [past, pendingIn_append_of_silent silent, moment.reachable.inLine.pendingIn_eq hb] at empty
    rw [moment.reachable.heldIn_of_failing moment.calm failing taken, line] at held
    have said : reportsOf save (first ++ .settled other (.error .cancelled) :: last) =
        [.settled save (.error .cancelled)] := by
      rw [news, if_pos empty]
      exact reportsOf_settleAll nodup (List.mem_append_left _ held)
    refine .inl ?_
    rw [moment.only save (by simp [said]), said]
  · have report := moment.reports (.taken key batch) (by simp [late])
    cases report

/-- A hook that crashes ends a redistribution. -/
theorem Ending.crashes (ending : Ending w w') (h : Reachable limit w) (agrees : w.Agrees supply)
    {news : List Event} (events : w'.events = w.events ++ news) {first : Save} {payload : Json}
    (called : .hooked first payload ∈ news)
    (hook : (supply first.object).hook payload = .crashed) :
    ∃ key front back, heldIn key w.events = front.map Prod.fst ++ first :: back.map Prod.fst ∧
      (front.map Prod.fst ++ first :: back.map Prod.fst).Nodup ∧
      news = (w.crashReports key.typeName front first payload back).flatMap Prod.snd := by
  have these {more : List Event} (same : w'.events = w.events ++ more) : news = more :=
    List.append_cancel_left (events.symm.trans same)
  have about : (Event.hooked first payload).reportsOn first = true := by simp [Event.reportsOn]
  have unsettled {saves : List Save} {result : SaveResult} :
      .hooked first payload ∉ saves.map fun save => Event.settled save result := by simp
  have returned {key : BucketKey} {pair : Save × Option Json}
      (held : pair.1 ∈ heldIn key w.events) (returns : w.Returns key.typeName pair.1 pair.2) :
      .hooked first payload ∉ w.reportsFor key.typeName pair.1 pair.2 := by
    intro said
    obtain rfl := Event.eq_of_reportsOn about (w.about_reportsFor _ _ _ _ said)
    have joined := h.joined_of_heldIn held
    apply returns payload said
    rw [agrees _ (h.inLine.known _ _ joined).1, hook]
  cases ending with
  | quiet same quiet => exact absurd (quiet _ (these same ▸ called)) (by simp [Event.isReport])
  | answered _ _ _ same | aborted _ _ same => exact absurd (these same ▸ called) unsettled
  | finished _ same => simp [these same] at called
  | @handedBack rest others b response hu hb returns same =>
    obtain ⟨pair, there, said⟩ := List.mem_flatMap.mp (these same ▸ called)
    refine absurd said (returned ?_ (returns pair there))
    rw [h.heldIn_eq_entries hu hb]
    exact List.mem_map_of_mem there
  | @crashed rest others b response front back bad entry payload' hu hb split returns _ same =>
    have line := h.heldIn_of_split hu hb split
    have nodup := (h.unended_of_closing hu hb).1
    rw [split, List.map_append, List.map_cons] at nodup
    obtain ⟨rfl, rfl⟩ : first = bad ∧ payload = payload' := by
      rw [these same, Ledger.flatMap_crashReports, List.mem_append, List.mem_cons] at called
      rcases called with earlier | here | later
      · obtain ⟨pair, there, said⟩ := List.mem_flatMap.mp earlier
        refine absurd said (returned ?_ (returns pair there))
        rw [line]
        exact List.mem_append_left _ (List.mem_map_of_mem there)
      · simpa using here
      · exact absurd later unsettled
    exact ⟨b.key, front, back, line, nodup, these same⟩

/-- Of a redistribution that a hook ends, the save of that hook and those after it are
cancelled. -/
theorem cutReports_crashReports (l : Ledger) (typeName : String)
    {front back : List (Save × Option Json)} {first : Save} {payload : Json}
    (nodup : (front.map Prod.fst ++ first :: back.map Prod.fst).Nodup)
    (hook : (supply first.object).hook payload = .crashed)
    (mem : save ∈ first :: back.map Prod.fst) :
    CutReports supply save
      (reportsOf save ((l.crashReports typeName front first payload back).flatMap Prod.snd)) := by
  rw [← Ledger.map_fst_crashReports] at nodup
  have own (item : Save × List Event)
      (there : item ∈ l.crashReports typeName front first payload back) :
      reportsOf item.1 ((l.crashReports typeName front first payload back).flatMap Prod.snd) =
        item.2 :=
    reportsOf_flatMap Prod.fst Ledger.about_crashReports nodup there
  rcases List.mem_cons.mp mem with rfl | later
  · refine .inr ⟨payload, hook, own (save, _) ?_⟩
    exact List.mem_append_right _ List.mem_cons_self
  · obtain ⟨pair, there, rfl⟩ := List.mem_map.mp later
    refine .inl (own (pair.1, _) ?_)
    exact List.mem_append_right _ (List.mem_cons_of_mem _ (List.mem_map_of_mem there))

/-- A hook crashes as held answers are handed back: its save and those after it are cancelled. -/
theorem Reachable.reports_of_handedBack (h : Reachable limit w) (calm : w.Undisturbed supply)
    {before mid after : List Event} {first : Save} {payload : Json} {p q : Nat}
    (split : w.events = before ++ (mid ++ .hooked first payload :: after))
    (hands : HandsBack key before mid) (hook : (supply first.object).hook payload = .crashed)
    (at_p : (heldIn key before)[p]? = some first) (at_q : (heldIn key before)[q]? = some save)
    (le : p ≤ q) : CutReports supply save (reportsOf save w.events) := by
  obtain ⟨u, v, early, last, moment, past⟩ :=
    h.exists_moment calm (split.trans (List.append_assoc _ _ _).symm) rfl
  have called : .hooked first payload ∈ early ++ .hooked first payload :: last := by simp
  have unended := moment.unended first
    (reportsOf_ne_nil_of_mem called (by simp [Event.reportsOn]))
  obtain ⟨other, front, back, line, nodup, news⟩ := moment.step.ending.crashes moment.reachable
    moment.calm.agrees moment.events called hook
  -- The redistribution is of this bucket, since a save is in one bucket only.
  obtain rfl : key = other := by
    have grown : w.events = u.events ++ (early ++ .hooked first payload :: after) := by
      rw [split, ← List.append_assoc, past, List.append_assoc]
    have here := h.joined_of_held split (List.mem_of_getElem? at_p)
    refine h.inLine.eq_of_joined here (h.joined_of_held grown ?_)
    rw [line]
    exact List.mem_append_right _ List.mem_cons_self
  -- Nothing of it was handed back before the step began, since nothing stays then.
  have sub : (heldIn key before).Sublist (heldIn key u.events) := by
    rcases List.append_eq_append_iff.mp past with ⟨gap, begun, joins⟩ | ⟨gap, rfl, rest⟩
    · cases gap with
      | nil => rw [begun, List.append_nil]
      | cons e gap =>
        have part : HandsBack key before (e :: gap) := fun e he =>
          hands e (joins ▸ List.mem_append_left _ he)
        exact absurd (moment.reachable.ended_of_handsBack moment.calm begun
          (List.cons_ne_nil _ _) part (List.mem_of_getElem? at_p)) unended
    · exact moment.heldIn_sublist (by rw [rest, List.append_assoc]) key
  have mem := mem_cons_of_sublist nodup (line ▸ sub) at_p at_q le
  have said := cutReports_crashReports u.toLedger key.typeName nodup hook mem
  rw [← news] at said
  rwa [moment.only save (List.ne_nil_of_mem said.cancelled)]

/-- A serialization crashes in the batch of a save: the save is cancelled by the end of the
cycle. -/
theorem Reachable.reports_of_spoiled (h : Reachable limit w) (calm : w.Undisturbed supply)
    {batch : List Save} (taken : .taken key batch ∈ w.events) (spoiled : Spoiled supply batch)
    (mem : save ∈ batch) :
    CutReports supply save (reportsOf save w.events) ∨ .failing key batch ∈ w.underway := by
  have joined := h.inLine.mem_joined_of_taken (mem_takenIn.mpr taken) mem
  rcases (h.accounted calm).reports save with none | justified
  · refine .inr (h.failing_of_spoiled calm taken spoiled mem fun ended => ?_)
    obtain ⟨result, settled⟩ := Ledger.mem_ended.mp ended
    exact reportsOf_ne_nil_of_mem settled (by simp [Event.reportsOn]) none
  · cases justified with
    | @answered other sent request answer i answered at_i settles =>
      obtain ⟨taken', serialized⟩ := h.taken_of_answered answered
      obtain ⟨rfl, rfl⟩ := h.eq_of_taken taken mem taken' (List.mem_of_getElem? at_i)
      obtain ⟨bad, in_batch, crashes⟩ := spoiled
      have known := (h.inLine.known _ _
        (h.inLine.mem_joined_of_taken (mem_takenIn.mpr taken) in_batch)).1
      have some := serialized bad in_batch
      rw [calm.agrees _ known, crashes] at some
      cases some
    | replied replied =>
      exact absurd (h.queued_of_replied replied) (h.only_bucket (mem_joinedIn.mp joined)).2
    | cut _ cancelled => exact .inl cancelled

/-- A save that a crash cuts short is cancelled by the end of the cycle. -/
theorem Reachable.reports_of_cut (h : Reachable limit w) (calm : w.Undisturbed supply)
    (cut : CutShort supply w.events key save) :
    CutReports supply save (reportsOf save w.events) ∨
      ∃ batch, .failing key batch ∈ w.underway := by
  cases cut with
  | spoiled taken spoiled mem =>
    exact (h.reports_of_spoiled calm taken spoiled mem).imp_right fun failing => ⟨_, failing⟩
  | aborted split spoiled mem empty held =>
    exact .inl (h.reports_of_aborted calm split spoiled mem empty held)
  | handedBack split hands hook at_p at_q le =>
    exact .inl (h.reports_of_handedBack calm split hands hook at_p at_q le)

/-- What was pending is in a later batch once all that joined was taken. -/
theorem taken_of_pendingIn {past after : List Event}
    (all : (takenIn key (past ++ after)).flatten = joinedIn key (past ++ after))
    (pending : save ∈ pendingIn key past) : ∃ next, .taken key next ∈ after ∧ save ∈ next := by
  have short : (takenIn key past).flatten.length ≤ (joinedIn key past).length := by
    by_contra long
    rw [pendingIn, List.drop_eq_nil_of_le (by omega)] at pending
    exact absurd pending List.not_mem_nil
  rw [takenIn_append, joinedIn_append, List.flatten_append] at all
  have rest := congrArg (List.drop (takenIn key past).flatten.length) all
  rw [List.drop_left, List.drop_append_of_le_length short] at rest
  have mem : save ∈ (takenIn key after).flatten := rest ▸ List.mem_append_left _ pending
  obtain ⟨next, taken, there⟩ := List.mem_flatten.mp mem
  exact ⟨next, mem_takenIn.mp taken, there⟩

/-- What a save ended with is what the journal says of it. -/
theorem Reachable.result?_iff (h : Reachable limit w) {entry : Option BucketKey}
    (asked : (entry, save) ∈ w.asked) {result : SaveResult} :
    w.result? save.handle = some result ↔ .settled save result ∈ w.events := by
  refine ⟨fun found => ?_, Ledger.result?_of_settled h.ended.1⟩
  obtain ⟨other, same, settled⟩ := Ledger.mem_results.mp (Ledger.mem_results_of_result? found)
  obtain ⟨key, asked'⟩ : ∃ key, (key, other) ∈ w.asked := by
    have mem : other ∈ w.load := Multiset.mem_add.mpr
      (.inr (Multiset.mem_coe.mpr (Ledger.mem_ended.mpr ⟨result, settled⟩)))
    rw [h.load_eq_asked, Multiset.mem_coe] at mem
    obtain ⟨⟨key, _⟩, there, rfl⟩ := List.mem_map.mp mem
    exact ⟨key, there⟩
  obtain rfl : other = save := congrArg Prod.snd (h.eq_of_handle asked' asked same)
  exact settled

end Workload

/-- Between two moves, no cycle is about to give up its batch. -/
theorem State.failing_notMem_underway (s : State) (key : BucketKey) (batch : List Save) :
    .failing key batch ∉ s.workload.underway := by
  have none (task : Task) : .failing key batch ∉ task.phases := by
    cases task with
    | job id stage => cases stage <;> simp [Task.phases, Stage.phase]
    | admitted drain => simp [Task.phases]
    | _ => simp [Task.phases]
  simp [workload, underway, none]

theorem CutReports.hooked {supply : Nat → Saveable} {save : Save} {reports : List Event}
    (h : CutReports supply save reports) {payload : Json}
    (called : .hooked save payload ∈ reports) :
    (supply save.object).hook payload = .crashed := by
  rcases h with rfl | ⟨payload', crashed, rfl⟩
  · simp at called
  · obtain rfl : payload = payload' := by simpa using called
    exact crashed

theorem ReachableInAnyOrder.reports_of_cut {setup : Setup} {s : State}
    (h : ReachableInAnyOrder setup s) (calm : s.Undisturbed s.saveable) {key : BucketKey}
    {save : Save} (cut : CutShort s.saveable s.events key save) :
    CutReports s.saveable save (reportsOf save s.events) :=
  (h.workload.reports_of_cut calm cut).resolve_right fun ⟨batch, failing⟩ =>
    s.failing_notMem_underway key batch failing

/-- A save of a bucket is cancelled when it is cut short, or when its own hook says so. -/
theorem ReachableInAnyOrder.cancelled_iff {setup : Setup} {s : State}
    (h : ReachableInAnyOrder setup s) (calm : s.Undisturbed s.saveable) {key : BucketKey}
    {save : Save} (joined : .joined key save ∈ s.events) :
    s.result? save.handle = some (.error .cancelled) ↔
      CutShort s.saveable s.events key save ∨
        ∃ payload, .hooked save payload ∈ s.events ∧
          (s.saveable save.object).hook payload = .failed .cancelled := by
  have reachable := h.workload
  have said {e : Event} (about : e.reportsOn save = true) (mem : e ∈ s.events) :
      e ∈ reportsOf save s.events :=
    List.mem_filter.mpr ⟨mem, about⟩
  have goes := (reachable.accounted calm).of_joined reachable joined
  refine (reachable.result?_iff (Ledger.mem_asked_some.mpr joined)).trans ⟨fun cancelled => ?_, ?_⟩
  · have told := said (by simp [Event.reportsOn]) cancelled
    rcases goes with none | ⟨m, i, batch, request, answer, -, -, -, settles⟩ | ⟨cut, -⟩
    · exact absurd told (none ▸ List.not_mem_nil)
    · obtain ⟨payload, called, hook⟩ := settles.cancelled_iff.mp told
      exact .inr ⟨payload, mem_of_mem_reportsOf called, hook⟩
    · exact .inl cut
  · rintro (cut | ⟨payload, called, hook⟩)
    · exact mem_of_mem_reportsOf (h.reports_of_cut calm cut).cancelled
    · have told := said (by simp [Event.reportsOn]) called
      rcases goes with none | ⟨m, i, batch, request, answer, -, -, -, settles⟩ | ⟨-, cancelled⟩
      · exact absurd told (none ▸ List.not_mem_nil)
      · exact mem_of_mem_reportsOf (settles.cancelled_iff.mpr ⟨payload, told, hook⟩)
      · exact absurd ((cancelled.hooked told).symm.trans hook) (by simp)

/-- What is pending when a cycle is cut short is taken by a later one. -/
theorem ReachableInAnyOrder.taken_later {setup : Setup} {s t : State}
    (h : ReachableInAnyOrder setup s) {key : BucketKey} {save : Save} {past after : List Event}
    (split : s.events = past ++ after) (pending : save ∈ pendingIn key past)
    (later : Later setup s t) (quiescent : t.Quiescent) :
    ∃ more next, t.events = s.events ++ more ∧ .taken key next ∈ after ++ more ∧ save ∈ next := by
  obtain ⟨more, grown⟩ : ∃ more, t.events = s.events ++ more :=
    (later.steps h.workload.tokens.guarded).exists_news
  have reachable := (h.later later).workload
  have none := ((h.later later).of_quiescent quiescent).2.2.1
  have all : (takenIn key t.events).flatten = joinedIn key t.events :=
    reachable.inLine.flatten_takenIn fun b hb _ =>
      (reachable.tokens.idle_of_underway_eq_zero none hb).1
  rw [grown, split, List.append_assoc] at all
  obtain ⟨next, taken, mem⟩ := Workload.taken_of_pendingIn all pending
  exact ⟨more, next, grown, taken, mem⟩

/-- How far a crash reaches, as long as flushes are awaited, the queue is not given up and the
transport does not crash itself. Every handle is that of a save of a bucket or of a direct save. A
save of a bucket is cancelled exactly if a crash cuts it short or its own hook was called and
returned just that error; nothing else is reported of a save that is cut short but the call of its
own hook, if that crashed. Every other save of every bucket goes by the answer to the only request
that carries it, at its position, and is called back as if nothing had crashed. A direct save ends
as it replied, so it is cancelled exactly if that is the reply or it crashed. What is pending in a
bucket when its cycle is cut short is taken by a later cycle before the queue comes to rest, as it
does. -/
theorem ReachableInAnyOrder.cancelled_iff_cut_short {setup : Setup} {s : State}
    (h : ReachableInAnyOrder setup s)
    (answers : ∀ key batch request, .answered key batch request .crash ∉ s.events) :
    (∀ handle < s.handles, ∃ save : Save, save.handle = handle ∧
      ((∃ key, .joined key save ∈ s.events) ∨ .queued (.update save) ∈ s.events)) ∧
    (∀ key save, .joined key save ∈ s.events →
      (s.result? save.handle = some (.error .cancelled) ↔
        CutShort s.saveable s.events key save ∨
          ∃ payload, .hooked save payload ∈ s.events ∧
            (s.saveable save.object).hook payload = .failed .cancelled) ∧
      (CutShort s.saveable s.events key save →
        CutReports s.saveable save (reportsOf save s.events)) ∧
      (¬CutShort s.saveable s.events key save →
        reportsOf save s.events = [] ∧ ¬s.Quiescent ∨
          ∃ (m i : Nat) (batch : List Save) (request : Request) (answer : Answer),
            (s.posted key)[m]? = some (batch, request) ∧
            (s.answered key)[m]? = some (batch, request, answer) ∧ batch[i]? = some save ∧
            (∀ key' m' i', s.Carries key' m' i' save ↔ key' = key ∧ m' = m ∧ i' = i) ∧
            Settles (s.saveable save.object) key.typeName save i answer
              (reportsOf save s.events))) ∧
    (∀ save, .queued (.update save) ∈ s.events →
      (∀ key m i, ¬s.Carries key m i save) ∧
      (∀ result, s.result? save.handle = some result → (result = .error .cancelled ↔
        (s.saveable save.object).saveReply = .crashed ∨
          (s.saveable save.object).saveReply = .error .cancelled)) ∧
      (reportsOf save s.events = [] ∧ ¬s.Quiescent ∨ save ∈ s.replied ∧
        SettlesDirectly save (s.saveable save.object).saveReply (reportsOf save s.events))) ∧
    (∀ save result, .settled save result ∈ s.events → s.result? save.handle = some result) ∧
    (∀ before key batch after save, s.events = before ++ .taken key batch :: after →
      Spoiled s.saveable batch → save ∈ pendingIn key (before ++ [.taken key batch]) →
      ∀ t, Later setup s t → t.Quiescent → ∃ more next, t.events = s.events ++ more ∧
        .taken key next ∈ after ++ more ∧ save ∈ next) ∧
    ∃ t, Later setup s t ∧ t.Quiescent := by
  have reachable := h.workload
  have calm : s.Undisturbed s.saveable := ⟨fun _ _ => rfl, answers⟩
  have accounted := reachable.accounted calm
  have unreported {key : Option BucketKey} {save : Save} (asked : (key, save) ∈ s.asked)
      (none : reportsOf save s.events = []) : ¬s.Quiescent := fun quiescent =>
    reachable.reportsOf_ne_nil (h.of_quiescent quiescent).2.2.1 asked none
  refine ⟨fun handle given => reachable.exists_asked given, fun key save joined => ?_,
    fun save queued => ?_, fun save result => Ledger.result?_of_settled reachable.ended.1, ?_,
    ⟨_, s.later_runUntil setup _, s.quiescent_runUntil setup⟩⟩
  · refine ⟨h.cancelled_iff calm joined, h.reports_of_cut calm, fun uncut => ?_⟩
    rcases accounted.of_joined reachable joined with
      none | ⟨m, i, batch, request, answer, sent, answered, at_i, settles⟩ | ⟨cut, -⟩
    · exact .inl ⟨none, unreported (Ledger.mem_asked_some.mpr joined) none⟩
    · exact .inr ⟨m, i, batch, request, answer, sent, answered, at_i, fun _ _ _ =>
        reachable.carries_iff ⟨batch, request, sent, at_i⟩, settles⟩
    · exact absurd cut uncut
  · obtain ⟨uncarried, reports⟩ := accounted.of_queued reachable queued
    refine ⟨uncarried, fun result found => ?_, reports.imp_left fun none =>
      ⟨none, unreported (Ledger.mem_asked_none.mpr queued) none⟩⟩
    have settled := (reachable.result?_iff (Ledger.mem_asked_none.mpr queued)).mp found
    have told : .settled save result ∈ reportsOf save s.events :=
      List.mem_filter.mpr ⟨settled, by simp [Event.reportsOn]⟩
    rcases reports with none | ⟨-, settles⟩
    · exact absurd told (none ▸ List.not_mem_nil)
    · exact settles.cancelled_iff told
  · intro before key batch after save split _ pending t later quiescent
    have past : s.events = (before ++ [.taken key batch]) ++ after := by
      rw [split, List.append_assoc, List.singleton_append]
    exact h.taken_later past pending later quiescent

/-- Batches of one: the answer to the first object is held when the serialization of the second
crashes, and nothing is pending. Both are cut short. -/
theorem held_save_is_cut_short :
    let s := (Setup.echoing { batchSize := 1 }).after
      [⟨{}, true, 0, none⟩, ⟨{ body := none }, true, 0, none⟩] 8
    s.Quiescent ∧ s.result? 0 = some (.error .cancelled) ∧
      CutShort s.saveable s.events (.ofSaveable {}) ⟨0, 0⟩ ∧
      CutReports s.saveable ⟨0, 0⟩ (reportsOf ⟨0, 0⟩ s.events) := by
  intro s
  have reachable := (Setup.reachable_after _ _ _ : Reachable _ s).inAnyOrder
  -- The same journal with objects that never crash: what is left of `CrashFree` is the answers.
  have answers : CrashFree (fun _ => {}) s.events := by decide +kernel
  have joined : .joined (.ofSaveable {}) ⟨0, 0⟩ ∈ s.events := by decide +kernel
  have cancelled : s.result? 0 = some (.error .cancelled) := by decide +kernel
  have only : reportsOf ⟨0, 0⟩ s.events = [.settled ⟨0, 0⟩ (.error .cancelled)] := by
    decide +kernel
  obtain ⟨extent, reports, -⟩ :=
    (reachable.cancelled_iff_cut_short answers.answers).2.1 (.ofSaveable {}) ⟨0, 0⟩ joined
  have cut : CutShort s.saveable s.events (.ofSaveable {}) ⟨0, 0⟩ := by
    apply (extent.mp cancelled).resolve_right
    rintro ⟨payload, called, -⟩
    have told : .hooked ⟨0, 0⟩ payload ∈ reportsOf ⟨0, 0⟩ s.events :=
      List.mem_filter.mpr ⟨called, by simp [Event.reportsOn]⟩
    simp [only] at told
  exact ⟨by decide +kernel, cancelled, cut, reports cut⟩

/-- A save may be cancelled though nothing crashed and so nothing cut it short: its hook returns
just that error, or the queue is given up while it waits. -/
theorem cancelled_not_cut_short :
    let s := (Setup.echoing {}).after [⟨{ hook := fun _ => .failed .cancelled }, true, 0, none⟩] 6
    let t := ((Setup.echoing { delayMs := 10 }).after [⟨{}, true, 0, none⟩] 0).shutdown.discard
    (s.Quiescent ∧ CrashFree s.saveable s.events ∧ s.result? 0 = some (.error .cancelled) ∧
      ¬∃ key, CutShort s.saveable s.events key ⟨0, 0⟩) ∧
    CrashFree t.saveable t.events ∧ t.result? 0 = some (.error .cancelled) ∧
      ¬∃ key, CutShort t.saveable t.events key ⟨0, 0⟩ := by
  intro s t
  have calm : CrashFree s.saveable s.events := by decide +kernel
  have calm' : CrashFree t.saveable t.events := by decide +kernel
  exact ⟨⟨by decide +kernel, calm, by decide +kernel, fun ⟨_, cut⟩ => calm.uncut cut⟩,
    calm', by decide +kernel, fun ⟨_, cut⟩ => calm'.uncut cut⟩

end Queue

end Writeback
