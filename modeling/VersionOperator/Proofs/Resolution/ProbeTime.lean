import VersionOperator.Proofs.Resolution.Settling

namespace VersionOperator

namespace Component

variable {c : Component} {policy : ProbePolicy} {now : Instant} {entry : Entry}

theorem lastProbe_pass_of_settles (h : c.Settles policy now entry.status) :
    (c.pass policy now entry).entry.status.lastProbe = some (entry.status.stampAt now) := by
  obtain ⟨draft, probed, hdraft, hpass⟩ := exists_draft h
  rw [hpass, status_settle, VersionStatus.lastProbe_markProbed]
  exact congrArg some (VersionStatus.stampAt_congr hdraft.lastProbe now)

theorem source_pass_of_settles (h : c.Settles policy now entry.status) :
    (c.pass policy now entry).entry.status.source = some c.source := by
  obtain ⟨draft, probed, _, hpass⟩ := exists_draft h
  rw [hpass, status_settle, VersionStatus.source_markProbed]

theorem advances_pass (henabled : c.enabled = true) (policy : ProbePolicy) (now : Instant)
    (entry : Entry) : entry.status.Advances (c.pass policy now entry).entry.status := by
  rcases settles_or_idles henabled policy now entry.status with hsettles | hidles
  · intro stamp hstamp
    refine ⟨_, lastProbe_pass_of_settles hsettles, ?_⟩
    exact (entry.status.isLatest_stampAt now).recorded_le hstamp
  · rw [hidles.status_pass]
    exact .refl _

theorem source_pass_of_ok (henabled : c.enabled = true)
    (hok : (c.pass policy now entry).result = .ok ()) :
    (c.pass policy now entry).entry.status.source = some c.source := by
  rcases settles_or_idles henabled policy now entry.status with hsettles | hidles
  · exact source_pass_of_settles hsettles
  · rcases hidles.pass_eq with ⟨hsource, hpass⟩ | ⟨error, hpass⟩
    · rw [hpass]
      exact hsource
    · rw [hpass] at hok
      exact absurd hok (by simp)

end Component

/-- One pass of a run over a component alone: the component as it answers in that pass, how it is
looked up, and what the clock shows. -/
structure Turn where
  component : Component
  policy : ProbePolicy
  now : Instant

def Turn.pass (t : Turn) (entry : Entry) : PassOutcome :=
  t.component.pass t.policy t.now entry

def entryAfter (start : Entry) (turns : List Turn) : Entry :=
  turns.foldl (fun entry t => (t.pass entry).entry) start

theorem entryAfter_append (start : Entry) (earlier later : List Turn) :
    entryAfter start (earlier ++ later) = entryAfter (entryAfter start earlier) later :=
  List.foldl_append

theorem advances_entryAfter (start : Entry) {turns : List Turn}
    (h : ∀ t ∈ turns, t.component.enabled = true) :
    start.status.Advances (entryAfter start turns).status := by
  induction turns generalizing start with
  | nil => exact .refl _
  | cons t rest ih =>
    have hfirst := Component.advances_pass (h t List.mem_cons_self) t.policy t.now start
    exact hfirst.trans (ih (t.pass start).entry fun u hu => h u (List.mem_cons_of_mem t hu))

/-- In a run in which the component is asked for throughout, the probe time never moves back and
never gets lost. A pass settles on something, and sets it to the latest of the clock and of the
probe time before, or settles on nothing, and leaves it. After a pass that succeeds the source is
the one that the component has in that pass. -/
theorem probe_time_never_back (start : Entry) (before : List Turn) (t : Turn) (later : List Turn)
    (h : ∀ u ∈ before ++ t :: later, u.component.enabled = true) :
    let recorded := (entryAfter start before).status
    let outcome := t.pass (entryAfter start before)
    recorded.Advances (entryAfter start (before ++ t :: later)).status ∧
      (t.component.Settles t.policy t.now recorded ∨ t.component.Idles t.policy t.now recorded) ∧
      (t.component.Settles t.policy t.now recorded → ∃ stamp,
        outcome.entry.status.lastProbe = some stamp ∧ stamp.IsLatest recorded.lastProbe t.now) ∧
      (t.component.Idles t.policy t.now recorded →
        outcome.entry.status.lastProbe = recorded.lastProbe) ∧
      (outcome.result = .ok () → outcome.entry.status.source = some t.component.source) := by
  intro recorded outcome
  have henabled : t.component.enabled = true := h t (by simp)
  refine ⟨?_, Component.settles_or_idles henabled t.policy t.now recorded, ?_, ?_,
    Component.source_pass_of_ok henabled⟩
  · rw [entryAfter_append]
    exact advances_entryAfter _ fun u hu => h u (List.mem_append_right before hu)
  · intro hsettles
    exact ⟨_, Component.lastProbe_pass_of_settles hsettles, recorded.isLatest_stampAt t.now⟩
  · intro hidles
    exact congrArg VersionStatus.lastProbe hidles.status_pass

/-- The clock is set back, and the tenant has an older version, so the pass keeps the record and the
probe time of the one before; the next pass has no token. -/
theorem probe_time_never_back_clock_set_back :
    let turn (client : Tenant.Client) (minutes : Int) : Turn :=
      let r := Round.classic {} client minutes
      ⟨r.component .oneAgent, r.policy, r.clock .oneAgent⟩
    let before := [turn (.naming "1.2.3") 5]
    let t := turn (.naming "1.2.2") 3
    let later := [turn (.withoutToken "none") 9]
    let recorded := (entryAfter ⟨{}, []⟩ before).status
    let outcome := t.pass (entryAfter ⟨{}, []⟩ before)
    ((∀ u ∈ before ++ t :: later, u.component.enabled = true) ∧
      t.component.Settles t.policy t.now recorded ∧
      outcome.entry.status.lastProbe = some (Instant.newYear.plusMinutes 5)) ∧
    recorded.Advances (entryAfter ⟨{}, []⟩ (before ++ t :: later)).status ∧
      (t.component.Settles t.policy t.now recorded ∨ t.component.Idles t.policy t.now recorded) ∧
      (t.component.Settles t.policy t.now recorded → ∃ stamp,
        outcome.entry.status.lastProbe = some stamp ∧ stamp.IsLatest recorded.lastProbe t.now) ∧
      (t.component.Idles t.policy t.now recorded →
        outcome.entry.status.lastProbe = recorded.lastProbe) ∧
      (outcome.result = .ok () → outcome.entry.status.source = some t.component.source) := by
  refine ⟨⟨?enabled, ?settles, rfl⟩, probe_time_never_back _ _ _ _ ?enabled⟩
  case enabled => decide
  case settles =>
    exact @Component.Settles.kept _ _ _ _
      { version := "1.2.2", image := "tenant.example/linux/oneagent:1.2.2" }
      ⟨rfl, by decide, rfl⟩ rfl rfl

end VersionOperator
