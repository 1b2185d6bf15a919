import ScyllaClusterSync.SSTableLoader.LiveCopy

/-!
# When a copy leaves a newer write alone

A copy holds the value it has read until the target takes it, and a write to the row may
overtake it. `copies_keep_newest` shows that the order in which the target is told is all
that matters: as long as a value the source has overwritten since reaches the target
before the newest one does, the clusters agree in the end.
-/

namespace ScyllaClusterSync
namespace SSTableLoader

open Svckit Lib

variable {R V : Type} {maxRetries : UInt32} {m m' : Clusters R V} {t t' : Task R V}
  {h : List (CopyAction R V)} {p p' : CopyState R V}

/-! ## The value a job holds -/

/-- The job holds this value for its row. -/
def Task.holds (t : Task R V) (e : R × Option V) : Prop :=
  t.job.row = e.1 ∧ ∃ value k, t.stage = .holding value k ∧ e.2 = some value

/-- The job has taken its value. -/
def JobStage.hasTaken : JobStage V → Bool
  | .holding _ _ => true
  | .done => true
  | _ => false

theorem holds_iff {value : V} {k : ℕ} (hstage : t.stage = .holding value k) {e : R × Option V} :
    t.holds e ↔ e = (t.job.row, some value) := by
  unfold Task.holds
  rw [hstage]
  constructor
  · intro hholds
    obtain ⟨hrow, value', k', heq, hval⟩ := hholds
    rw [JobStage.holding.injEq] at heq
    rw [← heq.1] at hval
    exact Prod.ext hrow.symm hval
  · intro heq
    rw [heq]
    exact ⟨rfl, value, k, rfl, rfl⟩

theorem not_holds (hstage : t.stage.isHolding = false) {e : R × Option V} : ¬ t.holds e := by
  intro hholds
  obtain ⟨_, value, k, heq, _⟩ := hholds
  rw [heq] at hstage
  exact absurd hstage (by simp [JobStage.isHolding])

variable [DecidableEq R]

/-! ## Inversion of the steps -/

theorem jobStep_source {row : R} {o : Outcome}
    (hstep : jobStep maxRetries m t (.source row o) = some (m', t')) :
    ∃ value, t.job = .write row value ∧ t.stage = .start ∧
      ((o = .ok ∧ m' = { m with source := overwrite m.source (row, some value) } ∧
          t' = { t with stage := .holding value 0 }) ∨
        ((∃ e, o = .syncError e) ∧ t' = { t with stage := .failed })) := by
  simp only [jobStep] at hstep
  split at hstep
  next row' value hjob hstage =>
    simp only [Option.ite_none_right_eq_some] at hstep
    obtain ⟨rfl, hstep⟩ := hstep
    cases o with
    | ok =>
      simp only [Option.some.injEq, Prod.mk.injEq] at hstep
      exact ⟨value, hjob, hstage, Or.inl ⟨rfl, hstep.1.symm, hstep.2.symm⟩⟩
    | syncError e =>
      simp only [Option.some.injEq, Prod.mk.injEq] at hstep
      exact ⟨value, hjob, hstage, Or.inr ⟨⟨e, rfl⟩, hstep.2.symm⟩⟩
  · simp at hstep

theorem jobStep_target {row : R} {o : Outcome}
    (hstep : jobStep maxRetries m t (.target row o) = some (m', t')) :
    ∃ value k, t.job.row = row ∧ t.stage = .holding value k ∧
      ((o = .ok ∧ m' = { m with target := overwrite m.target (row, some value) } ∧
          t' = { t with stage := .done }) ∨
        ((∃ e, o = .syncError e) ∧ t' = { t with stage := .failed })) := by
  simp only [jobStep] at hstep
  split at hstep
  next row' value' value k hjob hstage =>
    simp only [Option.ite_none_right_eq_some] at hstep
    obtain ⟨rfl, hstep⟩ := hstep
    cases o with
    | ok =>
      simp only [Option.some.injEq, Prod.mk.injEq] at hstep
      exact ⟨value, k, by rw [hjob]; rfl, hstage, Or.inl ⟨rfl, hstep.1.symm, hstep.2.symm⟩⟩
    | syncError e =>
      simp only [Option.some.injEq, Prod.mk.injEq] at hstep
      exact ⟨value, k, by rw [hjob]; rfl, hstage, Or.inr ⟨⟨e, rfl⟩, hstep.2.symm⟩⟩
  · simp at hstep

theorem jobStep_read {row : R} (hstep : jobStep maxRetries m t (.read row) = some (m', t')) :
    t.job.row = row ∧ t.stage = .start ∧ m' = m ∧
      ((∃ json, m.source row = some json ∧ t' = { t with stage := .holding json 0 }) ∨
        (m.source row = none ∧ t' = { t with stage := .absent })) := by
  simp only [jobStep] at hstep
  split at hstep
  next table row' hjob hstage =>
    simp only [Option.ite_none_right_eq_some] at hstep
    obtain ⟨rfl, hstep⟩ := hstep
    refine ⟨by rw [hjob]; rfl, hstage, ?_⟩
    cases hrow : m.source row with
    | none =>
      simp only [hrow, Option.some.injEq, Prod.mk.injEq] at hstep
      exact ⟨hstep.1.symm, Or.inr ⟨rfl, hstep.2.symm⟩⟩
    | some json =>
      simp only [hrow, Option.some.injEq, Prod.mk.injEq] at hstep
      exact ⟨hstep.1.symm, Or.inl ⟨json, rfl, hstep.2.symm⟩⟩
  · simp at hstep

/-- An insert, the last one or one that is retried. -/
theorem jobStep_insert {query : String} {row : R} {o : Outcome}
    (hstep : jobStep maxRetries m t (.insert query row o) = some (m', t')) :
    ∃ json k, t.job.row = row ∧ t.stage = .holding json k ∧
      ((o = .ok ∧ m' = { m with target := overwrite m.target (row, some json) } ∧
          t' = { t with stage := .done }) ∨
        ((∃ e, o = .syncError e) ∧ m' = m ∧
          (t' = { t with stage := .holding json (k + 1) } ∨
            t' = { t with stage := .failed }))) := by
  simp only [jobStep] at hstep
  split at hstep
  next table row' json k hjob hstage =>
    simp only [Option.ite_none_right_eq_some] at hstep
    obtain ⟨⟨_, rfl⟩, hstep⟩ := hstep
    refine ⟨json, k, by rw [hjob]; rfl, hstage, ?_⟩
    cases o with
    | ok =>
      simp only [Option.some.injEq, Prod.mk.injEq] at hstep
      exact Or.inl ⟨rfl, hstep.1.symm, hstep.2.symm⟩
    | syncError e =>
      refine Or.inr ⟨⟨e, rfl⟩, ?_⟩
      simp only at hstep
      split at hstep
      · simp only [Option.some.injEq, Prod.mk.injEq] at hstep
        exact ⟨hstep.1.symm, Or.inl hstep.2.symm⟩
      · simp only [Option.some.injEq, Prod.mk.injEq] at hstep
        exact ⟨hstep.1.symm, Or.inr hstep.2.symm⟩
  · simp at hstep

/-! ## Values the source has overwritten since -/

/-- Job `i` takes its value: it writes it to the source, or reads it there. -/
def takesValue (i : ℕ) : CopyAction R V → Bool
  | .act j (.source _ .ok) => j == i
  | .act j (.read _) => j == i
  | _ => false

/-- The row is overwritten on the source. -/
def overwritesSource (row : R) : CopyAction R V → Bool
  | .act _ (.source row' .ok) => row' == row
  | _ => false

/-- The row has not been overwritten on the source since job `i` took its value. -/
def fresh (i : ℕ) (row : R) (h : List (CopyAction R V)) : Bool :=
  h.foldl (fun b a => takesValue i a || (b && !overwritesSource row a)) false

theorem fresh_concat (i : ℕ) (row : R) (h : List (CopyAction R V)) (a : CopyAction R V) :
    fresh i row (h ++ [a]) = (takesValue i a || (fresh i row h && !overwritesSource row a)) := by
  unfold fresh
  rw [List.foldl_append]
  rfl

theorem fresh_concat_quiet {i : ℕ} {row : R} {a : CopyAction R V} (htakes : takesValue i a = false)
    (hover : overwritesSource row a = false) : fresh i row (h ++ [a]) = fresh i row h := by
  rw [fresh_concat, htakes, hover, Bool.false_or, Bool.not_false, Bool.and_true]

/-- The job and the row of an execute that the target accepts. -/
def landing : CopyAction R V → Option (ℕ × R)
  | .act i (.target row .ok) => some (i, row)
  | .act i (.insert _ row .ok) => some (i, row)
  | _ => none

/-- A value that the source has overwritten since reaches the target only while the newest
value of the row is on its way there. -/
def NewestLast (h : List (CopyAction R V)) (p : CopyState R V) (a : CopyAction R V) : Prop :=
  ∀ e ∈ landing a, fresh e.1 e.2 h ∨ ∃ j < p.threads.length, ∃ u ∈ p.threads[j]?,
    u.job.row = e.2 ∧ u.stage.isHolding ∧ fresh j e.2 h

instance (h : List (CopyAction R V)) (p : CopyState R V) (a : CopyAction R V) :
    Decidable (NewestLast h p a) := by
  unfold NewestLast
  infer_instance

/-! ## What the target does not have yet -/

/-- The newest values the target may be without: those that jobs hold, and those of the rows
the clusters differed in from the start and no job has got to. -/
def behind (source target : R → Option V) (h : List (CopyAction R V)) (p : CopyState R V) :
    Set (R × Option V) :=
  {e | (∃ j u, p.threads[j]? = some u ∧ (u.holds e ∧ fresh j e.1 h)) ∨
    (e.2 = p.mem.source e.1 ∧ source e.1 ≠ target e.1 ∧
      ¬ ∃ (j : ℕ) (u : Task R V), p.threads[j]? = some u ∧
        (u.stage.hasTaken ∧ u.job.row = e.1))}

variable {source target : R → Option V} {i : ℕ}

theorem mem_behind (ht : p.threads[i]? = some t) (e : R × Option V) :
    e ∈ behind source target h p ↔ (t.holds e ∧ fresh i e.1 h) ∨
      (∃ j u, j ≠ i ∧ p.threads[j]? = some u ∧ (u.holds e ∧ fresh j e.1 h)) ∨
      (e.2 = p.mem.source e.1 ∧ source e.1 ≠ target e.1 ∧
        ¬ (t.stage.hasTaken ∧ t.job.row = e.1) ∧
        ¬ ∃ (j : ℕ) (u : Task R V), j ≠ i ∧ p.threads[j]? = some u ∧
          (u.stage.hasTaken ∧ u.job.row = e.1)) := by
  unfold behind
  rw [Set.mem_ofPred_eq, Pool.exists_getElem?_iff ht, Pool.exists_getElem?_iff ht, or_assoc, not_or]

theorem mem_behind_set (ht : p.threads[i]? = some t) (e : R × Option V) :
    e ∈ behind source target h { mem := m', threads := p.threads.set i t' } ↔
      (t'.holds e ∧ fresh i e.1 h) ∨
      (∃ j u, j ≠ i ∧ p.threads[j]? = some u ∧ (u.holds e ∧ fresh j e.1 h)) ∨
      (e.2 = m'.source e.1 ∧ source e.1 ≠ target e.1 ∧
        ¬ (t'.stage.hasTaken ∧ t'.job.row = e.1) ∧
        ¬ ∃ (j : ℕ) (u : Task R V), j ≠ i ∧ p.threads[j]? = some u ∧
          (u.stage.hasTaken ∧ u.job.row = e.1)) := by
  unfold behind
  rw [Set.mem_ofPred_eq, Pool.exists_getElem?_set_iff ht, Pool.exists_getElem?_set_iff ht, or_assoc,
    not_or]

/-- What the other jobs hold, after a step that does not touch how fresh it is. -/
theorem held_by_others_congr {ts : List (Task R V)} {h' : List (CopyAction R V)}
    {e : R × Option V} (hfresh : ∀ j, j ≠ i → fresh j e.1 h' = fresh j e.1 h) :
    (∃ j u, j ≠ i ∧ ts[j]? = some u ∧ (u.holds e ∧ fresh j e.1 h')) ↔
      ∃ j u, j ≠ i ∧ ts[j]? = some u ∧ (u.holds e ∧ fresh j e.1 h) := by
  refine exists_congr fun j => exists_congr fun u => and_congr_right fun hji => ?_
  rw [hfresh j hji]

/-! ## One step -/

/-- A step that neither takes a value nor gives one away. -/
theorem behind_quiet {a : CopyAction R V} (ht : p.threads[i]? = some t)
    (hfresh : ∀ j row, j ≠ i → fresh j row (h ++ [a]) = fresh j row h)
    (hsource : m'.source = p.mem.source) (hjob : t'.job = t.job)
    (htaken : t'.stage.hasTaken = t.stage.hasTaken)
    (hholds : ∀ e : R × Option V,
      (t'.holds e ∧ fresh i e.1 (h ++ [a])) ↔ (t.holds e ∧ fresh i e.1 h)) :
    behind source target (h ++ [a]) { mem := m', threads := p.threads.set i t' } =
      behind source target h p := by
  ext e
  rw [mem_behind_set ht, mem_behind ht, held_by_others_congr fun j hji => hfresh j e.1 hji,
    hholds, hsource, hjob, htaken]

/-- The source takes a write: whatever else is held for the row is not the newest any more. -/
theorem lagging_source (hlag : Lagging p.mem.source p.mem.target (behind source target h p))
    (ht : p.threads[i]? = some t) {row : R} {value : V} (hjob : t.job = .write row value)
    (hstage : t.stage = .start) :
    Lagging (overwrite p.mem.source (row, some value)) p.mem.target
      (behind source target (h ++ [(.act i (.source row .ok) : CopyAction R V)])
        { mem := { p.mem with source := overwrite p.mem.source (row, some value) }
          threads := p.threads.set i { t with stage := .holding value 0 } }) := by
  have hrow : t.job.row = row := by rw [hjob]; rfl
  have hnot : ∀ e : R × Option V, ¬ t.holds e := fun e => not_holds (by rw [hstage]; rfl)
  have hself : ∀ e : R × Option V, Task.holds { t with stage := .holding value 0 } e ↔
      e = (row, some value) := by
    intro e
    rw [holds_iff rfl, ← hrow]
  have hfresh : ∀ row', fresh i row' (h ++ [(.act i (.source row .ok) : CopyAction R V)]) := by
    intro row'
    simp [fresh_concat, takesValue]
  have hothers : ∀ j row', j ≠ i →
      (fresh j row' (h ++ [(.act i (.source row .ok) : CopyAction R V)]) ↔
        fresh j row' h ∧ row' ≠ row) := by
    intro j row' hji
    have htakes : takesValue j (.act i (.source row .ok) : CopyAction R V) = false := by
      simp [takesValue, Ne.symm hji]
    rw [fresh_concat, htakes, Bool.false_or, Bool.and_eq_true, Bool.not_eq_true']
    exact and_congr_right fun _ => beq_eq_false_iff_ne.trans ne_comm
  apply hlag.supersede
  intro e
  rw [mem_behind_set ht, mem_behind ht]
  -- on the row of the write only this job has the newest value, on the others nothing changes
  by_cases hre : e.1 = row
  · have hnone : ¬ ∃ j u, j ≠ i ∧ p.threads[j]? = some u ∧ (u.holds e ∧
        fresh j e.1 (h ++ [(.act i (.source row .ok) : CopyAction R V)])) := by
      intro hex
      obtain ⟨j, u, hji, _, _, hf⟩ := hex
      exact ((hothers j e.1 hji).mp hf).2 hre
    rw [hself]
    constructor
    · intro hor
      rcases hor with ⟨heq, _⟩ | hex | hrest
      · exact Or.inr heq
      · exact absurd hex hnone
      · exact absurd ⟨rfl, hrow.trans hre.symm⟩ hrest.2.2.1
    · intro hor
      rcases hor with ⟨_, hne⟩ | heq
      · exact absurd hre hne
      · exact Or.inl ⟨heq, hfresh _⟩
  · have hsame := @held_by_others_congr R V h _ i p.threads
      (h ++ [(.act i (.source row .ok) : CopyAction R V)]) e fun j hji =>
        Bool.eq_iff_iff.mpr ((hothers j e.1 hji).trans (and_iff_left hre))
    have hne : e ≠ (row, some value) := fun heq => hre (by rw [heq])
    simp only [hsame, hself, hnot, hne, hre, hrow, Ne.symm hre, hstage, JobStage.hasTaken,
      overwrite_of_ne p.mem.source (e := (row, some value)) hre, false_and, false_or, and_false,
      not_false_eq_true, true_and, ne_eq, and_true, or_false, Bool.false_eq_true]

/-- A copy reads its row. -/
theorem lagging_read (hlag : Lagging p.mem.source p.mem.target (behind source target h p))
    (ht : p.threads[i]? = some t) {row : R} {json : V} (hrow : t.job.row = row)
    (hstage : t.stage = .start) (hread : p.mem.source row = some json) :
    Lagging p.mem.source p.mem.target
      (behind source target (h ++ [(.act i (.read row) : CopyAction R V)])
        { p with threads := p.threads.set i { t with stage := .holding json 0 } }) := by
  have hnot : ∀ e : R × Option V, ¬ t.holds e := fun e => not_holds (by rw [hstage]; rfl)
  have hself : ∀ e : R × Option V, Task.holds { t with stage := .holding json 0 } e ↔
      e = (row, some json) := by
    intro e
    rw [holds_iff rfl, ← hrow]
  have hfresh : ∀ row', fresh i row' (h ++ [(.act i (.read row) : CopyAction R V)]) := by
    intro row'
    simp [fresh_concat, takesValue]
  have hothers : ∀ j row', j ≠ i →
      fresh j row' (h ++ [(.act i (.read row) : CopyAction R V)]) = fresh j row' h := by
    intro j row' hji
    exact fresh_concat_quiet (by simp [takesValue, Ne.symm hji]) rfl
  apply hlag.join (e := (row, some json)) hread
  intro e
  rw [mem_behind_set ht, mem_behind ht, held_by_others_congr fun j hji => hothers j e.1 hji]
  simp only [hself, hfresh, hnot, hstage, hrow, JobStage.hasTaken, false_and, false_or,
    Bool.false_eq_true, not_false_eq_true, true_and, and_true]
  constructor
  · intro hor
    rcases hor with heq | hothers | hrest
    · exact Or.inr heq
    · exact Or.inl (Or.inl hothers)
    · exact Or.inl (Or.inr ⟨hrest.1, hrest.2.1, hrest.2.2.2⟩)
  · intro hor
    rcases hor with (hothers | hrest) | heq
    · exact Or.inr (Or.inl hothers)
    · by_cases hre : row = e.1
      · -- the row is no longer to be read, and what was read is what the source has
        left
        refine Prod.ext hre.symm ?_
        rw [hrest.1, ← hre, hread]
      · exact Or.inr (Or.inr ⟨hrest.1, hrest.2.1, hre, hrest.2.2⟩)
    · exact Or.inl heq

/-- The target takes a value. One that is not the newest does no harm as long as the newest
one is still to come. -/
theorem lagging_landing (hlag : Lagging p.mem.source p.mem.target (behind source target h p))
    (ht : p.threads[i]? = some t) {a : CopyAction R V} {value : V} {k : ℕ}
    (hstage : t.stage = .holding value k)
    (hfresh : ∀ j row, fresh j row (h ++ [a]) = fresh j row h)
    (hland : landing a = some (i, t.job.row)) (hlast : NewestLast h p a) :
    Lagging p.mem.source (overwrite p.mem.target (t.job.row, some value))
      (behind source target (h ++ [a])
        { mem := { p.mem with target := overwrite p.mem.target (t.job.row, some value) }
          threads := p.threads.set i { t with stage := .done } }) := by
  have hnot : ∀ e : R × Option V, ¬ Task.holds { t with stage := .done } e := fun e =>
    not_holds rfl
  have htaken : t.stage.hasTaken = (JobStage.done : JobStage V).hasTaken := by rw [hstage]; rfl
  have hbehind : ∀ e : R × Option V, e ∈ behind source target (h ++ [a])
      { mem := { p.mem with target := overwrite p.mem.target (t.job.row, some value) }
        threads := p.threads.set i { t with stage := .done } } →
      e ∈ behind source target h p := by
    intro e
    rw [mem_behind_set ht, mem_behind ht]
    simp only [hfresh, hnot, htaken, false_and, false_or]
    exact Or.inr
  have hrest : ∀ e ∈ behind source target h p, e ∈ behind source target (h ++ [a])
      { mem := { p.mem with target := overwrite p.mem.target (t.job.row, some value) }
        threads := p.threads.set i { t with stage := .done } } ∨
      (e = (t.job.row, some value) ∧ fresh i t.job.row h) := by
    intro e
    rw [mem_behind_set ht, mem_behind ht]
    simp only [hfresh, hnot, htaken, holds_iff hstage, false_and, false_or]
    intro hor
    rcases hor with ⟨heq, hf⟩ | hrest
    · rw [heq] at hf
      exact Or.inr ⟨heq, hf⟩
    · exact Or.inl hrest
  -- the value is the newest one itself, or the newest one is still held by another job
  rcases hlast _ (Option.mem_def.mpr hland) with hf | ⟨j, _, u, hu, hrow, hholding, hf⟩
  · refine hlag.deliver ?_ hbehind fun e he => (hrest e he).imp_right And.left
    rw [mem_behind ht]
    exact Or.inl ⟨(holds_iff hstage).mpr rfl, hf⟩
  · by_cases hfi : fresh i t.job.row h
    · refine hlag.deliver ?_ hbehind fun e he => (hrest e he).imp_right And.left
      rw [mem_behind ht]
      exact Or.inl ⟨(holds_iff hstage).mpr rfl, hfi⟩
    · -- a stale value: nothing that the target is behind by has been delivered
      have hsame : behind source target (h ++ [a])
          { mem := { p.mem with target := overwrite p.mem.target (t.job.row, some value) }
            threads := p.threads.set i { t with stage := .done } } =
          behind source target h p := by
        ext e
        exact ⟨hbehind e, fun he => (hrest e he).resolve_right fun hi => hfi hi.2⟩
      rw [hsame]
      cases hus : u.stage with
      | holding newest k' =>
        have hnewest : (u.job.row, some newest) ∈ behind source target h p := by
          refine Or.inl ⟨j, u, Option.mem_def.mp hu, (holds_iff hus).mpr rfl, ?_⟩
          rw [hrow]
          exact hf
        exact hlag.clobber hnewest hrow
      | _ => simp [hus, JobStage.isHolding] at hholding

/-- A job that starts holds nothing and has taken nothing. -/
theorem behind_spawn (job : Job R V) :
    behind source target (h ++ [(.spawn job : CopyAction R V)])
        { p with threads := p.threads ++ [{ job := job }] } = behind source target h p := by
  have hfresh : ∀ j row, fresh j row (h ++ [(.spawn job : CopyAction R V)]) = fresh j row h :=
    fun _ _ => fresh_concat_quiet rfl rfl
  ext e
  have hnot : ¬ Task.holds { job := job } e := not_holds rfl
  unfold behind
  rw [Set.mem_ofPred_eq, Set.mem_ofPred_eq, Pool.exists_getElem?_concat_iff,
    Pool.exists_getElem?_concat_iff]
  simp only [hfresh, hnot, JobStage.hasTaken, false_and, false_or, Bool.false_eq_true]

/-! ## Whole runs -/

theorem jobStep_stage {a : JobAction R} (hstep : jobStep maxRetries m t a = some (m', t')) :
    t.stage ≠ .failed := by
  cases a with
  | source row o =>
    obtain ⟨_, _, hstage, _⟩ := jobStep_source hstep
    simp [hstage]
  | target row o =>
    obtain ⟨_, _, _, hstage, _⟩ := jobStep_target hstep
    simp [hstage]
  | read row =>
    obtain ⟨_, hstage, _⟩ := jobStep_read hstep
    simp [hstage]
  | insert query row o =>
    obtain ⟨_, _, _, hstage, _⟩ := jobStep_insert hstep
    simp [hstage]

/-- A step of a job that does not end in a failure. -/
theorem lagging_job (hlag : Lagging p.mem.source p.mem.target (behind source target h p))
    (ht : p.threads[i]? = some t) {a : JobAction R} (hlast : NewestLast h p (.act i a))
    (hstep : jobStep maxRetries p.mem t a = some (m', t')) (hok : t'.stage ≠ .failed) :
    Lagging m'.source m'.target (behind source target (h ++ [(.act i a : CopyAction R V)])
      { mem := m', threads := p.threads.set i t' }) := by
  cases a with
  | source row o =>
    obtain ⟨value, hjob, hstage, ⟨ho, hm, ht'⟩ | ⟨_, ht'⟩⟩ := jobStep_source hstep
    · rw [ho, hm, ht']
      exact lagging_source hlag ht hjob hstage
    · exact absurd (by rw [ht']) hok
  | target row o =>
    obtain ⟨value, k, hrow, hstage, ⟨ho, hm, ht'⟩ | ⟨_, ht'⟩⟩ := jobStep_target hstep
    · rw [ho] at hlast ⊢
      rw [hm, ht', ← hrow]
      rw [← hrow] at hlast
      exact lagging_landing hlag ht hstage (fun _ _ => fresh_concat_quiet rfl rfl) rfl hlast
    · exact absurd (by rw [ht']) hok
  | read row =>
    obtain ⟨hrow, hstage, hm, ⟨json, hread, ht'⟩ | ⟨_, ht'⟩⟩ := jobStep_read hstep
    · rw [hm, ht']
      exact lagging_read hlag ht hrow hstage hread
    · -- the row is gone from the source, and there is nothing to insert
      rw [behind_quiet ht ?_ (by rw [hm]) (by rw [ht']) ?_ ?_, hm]
      · exact hlag
      · intro j row' hji
        exact fresh_concat_quiet (by simp [takesValue, Ne.symm hji]) rfl
      · rw [ht', hstage]
        rfl
      · intro e
        have hnot : ¬ t.holds e := not_holds (by rw [hstage]; rfl)
        have hnot' : ¬ t'.holds e := not_holds (by rw [ht']; rfl)
        simp [hnot, hnot']
  | insert query row o =>
    obtain ⟨json, k, hrow, hstage, ⟨ho, hm, ht'⟩ | ⟨⟨e, ho⟩, hm, ht' | ht'⟩⟩ := jobStep_insert hstep
    · rw [ho] at hlast ⊢
      rw [hm, ht', ← hrow]
      rw [← hrow] at hlast
      exact lagging_landing hlag ht hstage (fun _ _ => fresh_concat_quiet rfl rfl) rfl hlast
    · -- a failed insert that is retried with the same value
      have hfresh : ∀ j row', fresh j row' (h ++ [(.act i (.insert query row o) : CopyAction R V)]) =
          fresh j row' h := by
        rw [ho]
        exact fun _ _ => fresh_concat_quiet rfl rfl
      rw [behind_quiet ht (fun j row' _ => hfresh j row') (by rw [hm]) (by rw [ht']) ?_ ?_, hm]
      · exact hlag
      · rw [ht', hstage]
        rfl
      · intro e
        rw [hfresh, ht', holds_iff rfl, holds_iff hstage]
    · exact absurd (by rw [ht']) hok

/-- At the start the target is behind by the rows the clusters differ in. -/
theorem lagging_init : Lagging source target (behind source target []
    (Pool.init { source := source, target := target })) := by
  refine ⟨?_, ?_⟩
  · intro e he
    rcases he with ⟨j, u, hu, _⟩ | hrest
    · simp [Pool.init] at hu
    · exact hrest.1.symm
  · intro r hr
    exact ⟨(r, source r), Or.inr ⟨rfl, hr, by simp [Pool.init]⟩, rfl⟩

/-- A job that fails stays failed. -/
theorem not_failed_of_set (ht : p.threads[i]? = some t) {a : JobAction R}
    (hstep : jobStep maxRetries m t a = some (m', t'))
    (hok : ∀ u ∈ p.threads.set i t', u.stage ≠ .failed) : ∀ u ∈ p.threads, u.stage ≠ .failed := by
  intro u hu
  obtain ⟨j, hj⟩ := List.mem_iff_getElem?.mp hu
  by_cases hji : j = i
  · subst hji
    rw [Option.some.inj (hj.symm.trans ht)]
    exact jobStep_stage hstep
  · apply hok u
    apply List.mem_of_getElem? (i := j)
    rw [List.getElem?_set_ne (Ne.symm hji)]
    exact hj

theorem lagging_step {a : CopyAction R V}
    (hinv : (∀ u ∈ p.threads, u.stage ≠ .failed) →
      Lagging p.mem.source p.mem.target (behind source target h p))
    (hlast : NewestLast h p a) (hstep : Pool.step (copyProgram maxRetries) p a = some p')
    (hok : ∀ u ∈ p'.threads, u.stage ≠ .failed) :
    Lagging p'.mem.source p'.mem.target (behind source target (h ++ [a]) p') := by
  cases a with
  | spawn job =>
    rw [Pool.step_spawn hstep] at hok ⊢
    have hsame : behind source target (h ++ [PoolAction.spawn job])
        { p with threads := p.threads ++ [(copyProgram maxRetries).start job] } =
        behind source target h p := behind_spawn job
    rw [hsame]
    exact hinv fun u hu => hok u (List.mem_append_left _ hu)
  | act i a =>
    obtain ⟨t, m', t', ht, hthread, hp'⟩ := Pool.step_act hstep
    have hjob : jobStep maxRetries p.mem t a = some (m', t') := hthread
    rw [hp'] at hok ⊢
    have hself : t' ∈ p.threads.set i t' :=
      List.mem_of_getElem? (List.getElem?_set_self (List.getElem?_eq_some_iff.mp ht).1)
    exact lagging_job (hinv (not_failed_of_set ht hjob hok)) ht hlast hjob (hok t' hself)
  | env e => exact e.elim

/-- Until a job fails, the target is behind by what jobs hold and what no job has got to. -/
theorem lagging_of_run
    (hmeets : Meets (Pool.step (copyProgram maxRetries)) NewestLast []
      (Pool.init { source := source, target := target }) h)
    (hrun : copyRuns maxRetries source target h = some p)
    (hok : ∀ u ∈ p.threads, u.stage ≠ .failed) :
    Lagging p.mem.source p.mem.target (behind source target h p) :=
  @run_invariant_of_meets _ _ (Pool.step (copyProgram maxRetries))
    (Pool.init { source := source, target := target })
    (fun h p => (∀ u ∈ p.threads, u.stage ≠ .failed) →
      Lagging p.mem.source p.mem.target (behind source target h p))
    NewestLast (fun _ => lagging_init)
    (fun _ _ _ _ hinv hlast hstep hok => lagging_step hinv hlast hstep hok) h p hmeets hrun hok

/-! ## The result -/

/-- In every run in which a value that the source has overwritten since never reaches the
target after the newest one: once all writes and copies have gone well, the target has the
source's value in every row that was copied or written, or equal at the start. -/
theorem copies_keep_newest (R V : Type) [DecidableEq R] (maxRetries : UInt32)
    (source target : R → Option V) (h : List (CopyAction R V)) (p : CopyState R V)
    (hmeets : Meets (Pool.step (copyProgram maxRetries)) NewestLast []
      (Pool.init { source := source, target := target }) h)
    (hrun : copyRuns maxRetries source target h = some p)
    (hdone : ∀ u ∈ p.threads, u.stage.succeeded) (r : R)
    (hr : source r = target r ∨ ∃ u ∈ p.threads, u.job.row = r ∧ u.stage = .done) :
    p.mem.target r = p.mem.source r := by
  have hok : ∀ u ∈ p.threads, u.stage ≠ .failed := by
    intro u hu hfailed
    have hsucceeded := hdone u hu
    rw [hfailed] at hsucceeded
    exact absurd hsucceeded (by simp [JobStage.succeeded])
  refine ((lagging_of_run hmeets hrun hok).eq_of_free ?_).symm
  intro e he hrow
  -- nothing can be missing: no job holds a value, and the row has been read or was equal
  rcases he with ⟨j, u, hu, ⟨_, value, k, hstage, _⟩, _⟩ | ⟨_, hne, hnone⟩
  · have hsucceeded := hdone u (List.mem_of_getElem? hu)
    rw [hstage] at hsucceeded
    exact absurd hsucceeded (by simp [JobStage.succeeded])
  · rcases hr with heq | ⟨u, hu, hurow, hstage⟩
    · rw [hrow] at hne
      exact hne heq
    · obtain ⟨j, hj⟩ := List.mem_iff_getElem?.mp hu
      exact hnone ⟨j, u, hj, by rw [hstage]; rfl, hurow.trans hrow.symm⟩

/-- A cluster with one row. -/
def oneRow (value : String) : ℕ → Option String := overwrite (fun _ => none) (0, some value)

/-- All jobs are done. -/
def allDone (source target : ℕ → Option String) (jobs : List (Job ℕ String)) :
    CopyState ℕ String where
  mem := { source := source, target := target }
  threads := jobs.map fun job => { job := job, stage := .done }

theorem succeeded_allDone (source target : ℕ → Option String) (jobs : List (Job ℕ String)) :
    ∀ u ∈ (allDone source target jobs).threads, u.stage.succeeded := by
  intro u hu
  obtain ⟨job, _, rfl⟩ := List.mem_map.mp hu
  rfl

/-- A copy whose insert, retried once, comes before the newer write reaches the target. -/
def staleInsertFirst : List (CopyAction ℕ String) :=
  [.spawn (.copy "app.files" 0), .spawn (.write 0 "new"), .act 0 (.read 0),
    .act 1 (.source 0 .ok), .act 0 (.insert "INSERT INTO app.files JSON ?" 0 (.syncError "timeout")),
    .act 0 (.insert "INSERT INTO app.files JSON ?" 0 .ok), .act 1 (.target 0 .ok)]

theorem copies_keep_newest_staleInsertFirst :
    ∃ p, copyRuns 3 (oneRow "old") (fun _ => none) staleInsertFirst = some p ∧
      p.mem.target 0 = p.mem.source 0 := by
  have hmeets : Meets (Pool.step (copyProgram 3)) NewestLast []
      (Pool.init { source := oneRow "old", target := fun _ => none }) staleInsertFirst := by
    decide +kernel
  let p := allDone (overwrite (oneRow "old") (0, some "new"))
    (overwrite (oneRow "old") (0, some "new")) [.copy "app.files" 0, .write 0 "new"]
  refine ⟨p, rfl, copies_keep_newest ℕ String 3 (oneRow "old") (fun _ => none) staleInsertFirst p
    hmeets rfl (succeeded_allDone _ _ _) 0 (Or.inr ⟨_, List.mem_cons_self, rfl, rfl⟩)⟩

/-- The same copy with its insert after the write. -/
def staleInsertLast : List (CopyAction ℕ String) :=
  [.spawn (.copy "app.files" 0), .spawn (.write 0 "new"), .act 0 (.read 0),
    .act 0 (.insert "INSERT INTO app.files JSON ?" 0 (.syncError "timeout")),
    .act 1 (.source 0 .ok), .act 1 (.target 0 .ok),
    .act 0 (.insert "INSERT INTO app.files JSON ?" 0 .ok)]

/-- Two writes that reach the clusters in different orders, and no copy. -/
def crossedWrites : List (CopyAction ℕ String) :=
  [.spawn (.write 0 "first"), .spawn (.write 0 "second"), .act 0 (.source 0 .ok),
    .act 1 (.source 0 .ok), .act 1 (.target 0 .ok), .act 0 (.target 0 .ok)]

/-- The copy overwrites the newer write on the target, and so does the older of two writes. -/
theorem stale_insert_overwrites :
    ¬ (∀ (h : List (CopyAction ℕ String)) (p : CopyState ℕ String),
        copyRuns 3 (oneRow "old") (fun _ => none) h = some p →
        (∀ u ∈ p.threads, u.stage.succeeded) → p.mem.target 0 = p.mem.source 0) ∧
      ¬ (∀ (h : List (CopyAction ℕ String)) (p : CopyState ℕ String),
        copyRuns 3 (fun _ => none) (fun _ => none) h = some p →
        (∀ u ∈ p.threads, u.stage.succeeded) → p.mem.target 0 = p.mem.source 0) := by
  constructor
  · intro hall
    have heq := hall staleInsertLast
      (allDone (overwrite (oneRow "old") (0, some "new")) (overwrite (oneRow "new") (0, some "old"))
        [.copy "app.files" 0, .write 0 "new"]) rfl (succeeded_allDone _ _ _)
    exact absurd heq (by decide)
  · intro hall
    have heq := hall crossedWrites
      (allDone (overwrite (oneRow "first") (0, some "second"))
        (overwrite (oneRow "second") (0, some "first")) [.write 0 "first", .write 0 "second"]) rfl
      (succeeded_allDone _ _ _)
    exact absurd heq (by decide)

end SSTableLoader
end ScyllaClusterSync
