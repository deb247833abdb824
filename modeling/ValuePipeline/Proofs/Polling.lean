import ValuePipeline.Proofs.Run

/-!
# Polls

A run that is polled reports until it suspends, and is then taken up where it stopped.
What it has reported so far and what is left of it make up the whole run, so polls
split the reports and change nothing else: together they report what the run reports,
and the last one gives what the run gives.  Without its suspensions a run is ready at
the first poll.
-/

namespace ValuePipeline.Run

variable {α β : Type} {run rest : Run α}

/-! ## One poll -/

theorem poll_emit {events : List Event} {progress : Progress α} {event : Event}
    (hpoll : run.poll = (events, progress)) :
    (emit event run).poll = (event :: events, progress) := by
  rw [poll, hpoll]

theorem of_poll_ready {events : List Event} {a : α} (hpoll : run.poll = (events, .ready a)) :
    run.events = events ∧ run.result = a := by
  induction run generalizing events with
  | done b =>
      cases hpoll
      exact ⟨rfl, rfl⟩
  | emit event next ih =>
      obtain ⟨rfl, hnext⟩ := Prod.mk.inj hpoll
      obtain ⟨hevents, hresult⟩ := ih (Prod.ext rfl hnext)
      exact ⟨congrArg (event :: ·) hevents, hresult⟩
  | suspend next ih => cases hpoll

theorem of_poll_pending {events : List Event} (hpoll : run.poll = (events, .pending rest)) :
    run.events = events ++ rest.events ∧ run.result = rest.result := by
  induction run generalizing events with
  | done b => cases hpoll
  | emit event next ih =>
      obtain ⟨rfl, hnext⟩ := Prod.mk.inj hpoll
      obtain ⟨hevents, hresult⟩ := ih (Prod.ext rfl hnext)
      exact ⟨congrArg (event :: ·) hevents, hresult⟩
  | suspend next ih =>
      cases hpoll
      exact ⟨rfl, rfl⟩

/-! ## Polled to the end -/

/-- Polled until it is ready, the run reports the batches one after another and gives `a`. -/
inductive Completes : Run α → List (List Event) → α → Prop where
  | ready {run : Run α} {events : List Event} {a : α} (hpoll : run.poll = (events, .ready a)) :
      Completes run [events] a
  | again {run rest : Run α} {events : List Event} {batches : List (List Event)} {a : α}
      (hpoll : run.poll = (events, .pending rest)) (hrest : Completes rest batches a) :
      Completes run (events :: batches) a

theorem Completes.emit {batch : List Event} {batches : List (List Event)} {a : α}
    (hcompletes : run.Completes (batch :: batches) a) (event : Event) :
    (Run.emit event run).Completes ((event :: batch) :: batches) a := by
  cases hcompletes with
  | ready hpoll => exact .ready (poll_emit hpoll)
  | again hpoll hrest => exact .again (poll_emit hpoll) hrest

theorem completes_polls (run : Run α) : run.Completes run.polls.1 run.polls.2 := by
  induction run with
  | done a => exact .ready rfl
  | emit event next ih =>
      rcases hpolls : next.polls with ⟨_ | ⟨batch, batches⟩, a⟩
      · rw [hpolls] at ih
        cases ih
      · rw [hpolls] at ih
        simpa [polls, hpolls] using ih.emit event
  | suspend next ih => exact .again rfl ih

theorem Completes.eq {batches : List (List Event)} {a : α}
    (hcompletes : run.Completes batches a) : batches.flatten = run.events ∧ a = run.result := by
  induction hcompletes with
  | ready hpoll =>
      obtain ⟨hevents, hresult⟩ := of_poll_ready hpoll
      simp [hevents, hresult]
  | again hpoll hrest ih =>
      obtain ⟨hevents, hresult⟩ := of_poll_pending hpoll
      simp [hevents, hresult, ih]

/-! ## Found pending -/

/-- Some poll finds the run pending, with these reports made so far and this much left. -/
inductive Pauses : Run α → List Event → Run α → Prop where
  | now {run rest : Run α} {events : List Event} (hpoll : run.poll = (events, .pending rest)) :
      Pauses run events rest
  | later {run rest last : Run α} {events more : List Event}
      (hpoll : run.poll = (events, .pending rest)) (hrest : Pauses rest more last) :
      Pauses run (events ++ more) last

theorem Pauses.eq {events : List Event} (hpauses : run.Pauses events rest) :
    run.events = events ++ rest.events ∧ run.result = rest.result := by
  induction hpauses with
  | now hpoll => exact of_poll_pending hpoll
  | later hpoll hrest ih =>
      obtain ⟨hevents, hresult⟩ := of_poll_pending hpoll
      simp [hevents, hresult, ih]

theorem not_pauses_done {a : α} {events : List Event} : ¬ (done a).Pauses events rest := by
  rintro (hpoll | ⟨hpoll, -⟩) <;> cases hpoll

theorem pauses_emit_iff {event : Event} {events : List Event} :
    (emit event run).Pauses events rest ↔
      ∃ others, events = event :: others ∧ run.Pauses others rest := by
  constructor
  · intro hpauses
    cases hpauses with
    | now hpoll =>
        obtain ⟨rfl, hnext⟩ := Prod.mk.inj hpoll
        exact ⟨_, rfl, .now (Prod.ext rfl hnext)⟩
    | later hpoll hrest =>
        obtain ⟨rfl, hnext⟩ := Prod.mk.inj hpoll
        exact ⟨_, rfl, .later (Prod.ext rfl hnext) hrest⟩
  · rintro ⟨others, rfl, hnext⟩
    cases hnext with
    | now hpoll => exact .now (poll_emit hpoll)
    | later hpoll hrest => exact .later (poll_emit hpoll) hrest

theorem pauses_suspend_iff {events : List Event} :
    (suspend run).Pauses events rest ↔ events = [] ∧ rest = run ∨ run.Pauses events rest := by
  constructor
  · intro hpauses
    cases hpauses with
    | now hpoll =>
        cases hpoll
        exact .inl ⟨rfl, rfl⟩
    | later hpoll hrest =>
        cases hpoll
        exact .inr hrest
  · rintro (⟨rfl, rfl⟩ | hnext)
    · exact .now rfl
    · have hpoll : (suspend run).poll = ([], .pending run) := rfl
      exact .later hpoll hnext

theorem pauses_bind_iff {further : α → Run β} {events : List Event} {rest : Run β} :
    (run >>= further).Pauses events rest ↔
      (∃ left, run.Pauses events left ∧ rest = left >>= further) ∨
        ∃ more, events = run.events ++ more ∧ (further run.result).Pauses more rest := by
  induction run generalizing events with
  | done a =>
      constructor
      · exact fun hpauses => .inr ⟨events, rfl, hpauses⟩
      · rintro (⟨left, hleft, -⟩ | ⟨more, rfl, hmore⟩)
        · exact absurd hleft not_pauses_done
        · exact hmore
  | emit event next ih =>
      constructor
      · intro hpauses
        obtain ⟨others, rfl, hnext⟩ := pauses_emit_iff.mp hpauses
        rcases ih.mp hnext with ⟨left, hleft, rfl⟩ | ⟨more, rfl, hmore⟩
        · exact .inl ⟨left, pauses_emit_iff.mpr ⟨others, rfl, hleft⟩, rfl⟩
        · exact .inr ⟨more, rfl, hmore⟩
      · rintro (⟨left, hleft, rfl⟩ | ⟨more, rfl, hmore⟩)
        · obtain ⟨others, rfl, hnext⟩ := pauses_emit_iff.mp hleft
          exact pauses_emit_iff.mpr ⟨others, rfl, ih.mpr (.inl ⟨left, hnext, rfl⟩)⟩
        · exact pauses_emit_iff.mpr ⟨next.events ++ more, rfl, ih.mpr (.inr ⟨more, rfl, hmore⟩)⟩
  | suspend next ih =>
      constructor
      · intro hpauses
        rcases pauses_suspend_iff.mp hpauses with ⟨rfl, rfl⟩ | hnext
        · exact .inl ⟨next, .now rfl, rfl⟩
        · rcases ih.mp hnext with ⟨left, hleft, rfl⟩ | ⟨more, rfl, hmore⟩
          · exact .inl ⟨left, pauses_suspend_iff.mpr (.inr hleft), rfl⟩
          · exact .inr ⟨more, rfl, hmore⟩
      · rintro (⟨left, hleft, rfl⟩ | ⟨more, rfl, hmore⟩)
        · rcases pauses_suspend_iff.mp hleft with ⟨rfl, rfl⟩ | hnext
          · exact .now rfl
          · exact pauses_suspend_iff.mpr (.inr (ih.mpr (.inl ⟨left, hnext, rfl⟩)))
        · exact pauses_suspend_iff.mpr (.inr (ih.mpr (.inr ⟨more, rfl, hmore⟩)))

theorem pauses_tell_bind_iff {event : Event} {events : List Event} {further : Unit → Run α} :
    (tell event >>= further).Pauses events rest ↔
      ∃ others, events = event :: others ∧ (further ()).Pauses others rest :=
  pauses_emit_iff

theorem pauses_tells_bind_iff {told events : List Event} {further : Unit → Run α} :
    (tells told >>= further).Pauses events rest ↔
      ∃ more, events = told ++ more ∧ (further ()).Pauses more rest := by
  induction told generalizing events with
  | nil => exact ⟨fun hpauses => ⟨events, rfl, hpauses⟩, by rintro ⟨_, rfl, hpauses⟩; exact hpauses⟩
  | cons event told ih =>
      rw [tells_cons, bind_assoc, pauses_tell_bind_iff]
      constructor
      · rintro ⟨others, rfl, hothers⟩
        obtain ⟨more, rfl, hmore⟩ := ih.mp hothers
        exact ⟨more, rfl, hmore⟩
      · rintro ⟨more, rfl, hmore⟩
        exact ⟨told ++ more, rfl, ih.mpr ⟨more, rfl, hmore⟩⟩

/-! ## Without suspensions -/

def prompt : Run α → Run α
  | done a => done a
  | emit event next => emit event next.prompt
  | suspend next => next.prompt

@[simp] theorem events_prompt (run : Run α) : run.prompt.events = run.events := by
  induction run with
  | done a => rfl
  | emit event next ih => exact congrArg (event :: ·) ih
  | suspend next ih => exact ih

@[simp] theorem result_prompt (run : Run α) : run.prompt.result = run.result := by
  induction run with
  | done a => rfl
  | emit event next ih => exact ih
  | suspend next ih => exact ih

@[simp] theorem prompt_done (a : α) : (done a).prompt = done a := rfl

@[simp] theorem prompt_tell (event : Event) : (tell event).prompt = tell event := rfl

@[simp] theorem prompt_bind (run : Run α) (further : α → Run β) :
    (run >>= further).prompt = run.prompt >>= fun a => (further a).prompt := by
  induction run with
  | done a => rfl
  | emit event next ih => simp [prompt, ih]
  | suspend next ih => simp [prompt, ih]

@[simp] theorem prompt_tells (events : List Event) : (tells events).prompt = tells events := by
  induction events with
  | nil => rfl
  | cons event events ih => simp [tells_cons, ih]

theorem poll_prompt (run : Run α) : run.prompt.poll = (run.events, .ready run.result) := by
  induction run with
  | done a => rfl
  | emit event next ih => simp [prompt, poll, ih, events, result]
  | suspend next ih => exact ih

end ValuePipeline.Run
