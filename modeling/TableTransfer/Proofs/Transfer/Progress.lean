import TableTransfer.Proofs.Transfer.Pipeline

namespace TableTransfer

variable {σ : Type}

def Stage.rank : Stage σ → Nat
  | waiting => 6
  | granted => 5
  | working _ => 4
  | worked _ => 3
  | closed _ => 2
  | refused _ | released _ => 1
  | gone _ => 0

theorem Party.rank_advance (setup : DriverSetup)
    (enter : Connection → Except Error (σ × Connection)) (r : Registry) {p : Party σ}
    (hgone : p.isGone = false) (hidle : p.stage.work? = none) :
    (p.advance setup enter r).1.stage.rank < p.stage.rank := by
  obtain ⟨stage, c⟩ := p
  cases stage with
  | waiting =>
      simp only [advance]
      split <;> simp [Stage.rank]
  | granted =>
      simp only [advance]
      split <;> simp [Stage.rank]
  | working => cases hidle
  | refused | worked | closed | released => simp [advance, close, Stage.rank]
  | gone => cases hgone

/-- What a reading source has still to do. A record counts less with every hand that it passes
through. -/
def Reading.weight (r : Reading) : Nat :=
  (if r.exhausted then 0 else 3 + 6 * r.cursor.ahead.length) + 3 * r.batch.length +
    match r.outgoing with
    | some batch => 2 * batch.length + 2
    | none => 0

def Stage.readWeight : Stage Reading → Nat
  | working r => r.weight
  | _ => 0

def Stage.writeWeight : Stage Writing → Nat
  | working w => w.pending.length
  | _ => 0

namespace Pipeline

def rank (p : Pipeline) : Nat := p.reader.stage.rank + p.writer.stage.rank

def weight (p : Pipeline) : Nat :=
  p.reader.stage.readWeight + p.writer.stage.writeWeight + p.queue.flatten.length + p.queue.length

/-- Fewer stages are left, or as many and less work in them. -/
def Nearer (p q : Pipeline) : Prop :=
  p.rank < q.rank ∨ p.rank = q.rank ∧ p.weight < q.weight

def Finished (p : Pipeline) : Prop := p.reader.isGone = true ∧ p.writer.isGone = true

end Pipeline

theorem Reading.fetch_progress {r : Reading} (size : Nat) (hout : r.outgoing = none)
    (hmore : r.exhausted = false) :
    (∃ result, r.fetch size = .worked result) ∨
      ∃ r', r.fetch size = .working r' ∧ r'.weight < r.weight := by
  simp only [fetch]
  split
  · rename_i cursor hnext
    have hahead := congrArg List.length (Cursor.ahead_of_next hnext)
    rw [List.length_cons] at hahead
    split
    · split
      · refine .inr ⟨_, rfl, ?_⟩
        simp only [weight, hout, hmore, hahead, List.length_append, List.length_singleton,
          List.length_nil, Bool.false_eq_true, if_false]
        omega
      · refine .inr ⟨_, rfl, ?_⟩
        simp only [weight, hout, hmore, hahead, List.length_append, List.length_singleton,
          Bool.false_eq_true, if_false]
        omega
    · exact .inl ⟨_, rfl⟩
  · refine .inr ⟨_, rfl, ?_⟩
    simp only [weight, hout, hmore, Bool.false_eq_true, if_false, if_true, List.length_nil]
    cases r.batch with
    | nil =>
        simp only [List.isEmpty_nil, if_true]
        omega
    | cons record batch =>
        simp only [List.isEmpty_cons, Bool.false_eq_true, if_false, List.length_cons]
        omega

namespace Pipeline

variable {s : Source} {k : Sink} {capacity : Nat} {p : Pipeline}

theorem sinkTurn_nearer (hgone : p.writer.isGone = false)
    (hready : p.sending = false ∨ p.queue ≠ []) : (p.sinkTurn k).Nearer p := by
  rw [sinkTurn]
  cases hwork : p.writer.stage.work? with
  | some w =>
      have hw := Stage.work?_eq_some_iff.1 hwork
      obtain ⟨writer, pending⟩ := w
      simp only [Nearer, rank, weight, hw, Writing.turn]
      cases pending with
      | cons record pending =>
          simp only
          split
          · right
            simp [Writing.party, Stage.rank, Stage.writeWeight]
          · left
            simp [Stage.rank]
      | nil =>
          cases hqueue : p.queue with
          | cons batch queue =>
              right
              simp [Writing.party, Stage.rank, Stage.writeWeight]
              omega
          | nil =>
              have hsending : p.sending = false := hready.resolve_right fun h => h hqueue
              left
              simp [hsending, Stage.rank]
  | none =>
      left
      have hrank := Party.rank_advance k.setup k.enter p.registry hgone hwork
      simp only [rank]
      omega

theorem sourceTurn_nearer (hgone : p.reader.isGone = false)
    (hready : ∀ r, p.reader.stage = .working r → r.outgoing ≠ none →
      p.receiving = false ∨ p.queue.length < capacity) : (p.sourceTurn s capacity).Nearer p := by
  rw [sourceTurn]
  cases hwork : p.reader.stage.work? with
  | some r =>
      have hr := Stage.work?_eq_some_iff.1 hwork
      simp only [Nearer, rank, weight, hr, Reading.turn]
      cases hout : r.outgoing with
      | some batch =>
          have hready := hready r hr (by simp [hout])
          cases hreceiving : p.receiving with
          | false =>
              left
              simp [Stage.rank]
          | true =>
              have hroom : p.queue.length < capacity := hready.resolve_left (by simp [hreceiving])
              right
              simp [hroom, Stage.rank, Stage.readWeight, Reading.weight, hout]
              omega
      | none =>
          cases hmore : r.exhausted with
          | true =>
              left
              simp [Stage.rank]
          | false =>
              obtain ⟨result, hfetch⟩ | ⟨r', hfetch, hweight⟩ :=
                Reading.fetch_progress s.size hout hmore
              · left
                simp [hfetch, Stage.rank]
              · right
                simp [hfetch, Stage.rank, Stage.readWeight]
                omega
  | none =>
      left
      have hrank := Party.rank_advance s.setup s.enter p.registry hgone hwork
      simp only [rank]
      omega

theorem exists_nearer_turn (s : Source) (k : Sink) (hcapacity : 0 < capacity) (h : ¬p.Finished) :
    ∃ t, (p.turn s k capacity t).Nearer p := by
  cases hreader : p.reader.isGone with
  | true =>
      have hwriter : p.writer.isGone = false := by
        rw [← Bool.not_eq_true]
        exact fun hwriter => h ⟨hreader, hwriter⟩
      exact ⟨.sink, sinkTurn_nearer hwriter (.inl (by simp [sending, hreader]))⟩
  | false =>
      by_cases hready : p.receiving = false ∨ p.queue.length < capacity
      · exact ⟨.source, sourceTurn_nearer hreader fun _ _ _ => hready⟩
      · rw [not_or, Bool.not_eq_false, Nat.not_lt] at hready
        have hqueue : p.queue ≠ [] := by
          rintro hqueue
          rw [hqueue] at hready
          exact absurd hready.2 (Nat.not_le.2 hcapacity)
        have hwriter : p.writer.isGone = false := by
          have hreceiving := hready.1
          simp only [receiving] at hreceiving
          simp only [Party.isGone]
          split at hreceiving <;> simp_all
        exact ⟨.sink, sinkTurn_nearer hwriter (.inr hqueue)⟩

/-- Wherever they are, a source and a sink can be brought to their ends, whatever these are. -/
theorem exists_finish (s : Source) (k : Sink) (hcapacity : 0 < capacity) (p : Pipeline) :
    ∃ turns : List Turn, (turns.foldl (turn s k capacity) p).Finished := by
  by_cases h : p.Finished
  · exact ⟨[], h⟩
  · obtain ⟨t, ht⟩ := exists_nearer_turn s k hcapacity h
    obtain ⟨turns, hturns⟩ := exists_finish s k hcapacity (p.turn s k capacity t)
    exact ⟨t :: turns, hturns⟩
termination_by (p.rank, p.weight)
decreasing_by
  rw [Prod.lex_def]
  exact ht

theorem stage_of_isGone {p : Party σ} (h : p.isGone = true) :
    ∃ result, p.stage = .gone result := by
  obtain ⟨stage, c⟩ := p
  cases stage with
  | gone result => exact ⟨result, rfl⟩
  | waiting | refused | granted | working | worked | closed | released => cases h

/-- With room for a batch every run can be continued until both are gone. -/
theorem run_finishes (s : Source) (k : Sink) (hcapacity : 0 < capacity) (r : Registry)
    (c d : Connection) (turns : List Turn) :
    ∃ more result result', (run s k capacity r c d (turns ++ more)).reader.stage = .gone result ∧
      (run s k capacity r c d (turns ++ more)).writer.stage = .gone result' := by
  obtain ⟨more, hmore⟩ := exists_finish s k hcapacity (run s k capacity r c d turns)
  have happend : run s k capacity r c d (turns ++ more) =
      more.foldl (turn s k capacity) (run s k capacity r c d turns) := List.foldl_append
  obtain ⟨result, hreader⟩ := stage_of_isGone hmore.1
  obtain ⟨result', hwriter⟩ := stage_of_isGone hmore.2
  exact ⟨more, result, result', happend ▸ hreader, happend ▸ hwriter⟩

/-- Where nothing is at fault every run can be continued until all rows are captured, and both
count them. -/
theorem run_succeeds {s : Source} {k : Sink} {c d : Connection} {rows : List (List Param)}
    (hf : Faultless s k c d rows) (hcapacity : 0 < capacity) (r : Registry) (turns : List Turn) :
    ∃ more,
      (run s k capacity r c d (turns ++ more)).reader.stage = .gone (.ok rows.length) ∧
      (run s k capacity r c d (turns ++ more)).writer.stage = .gone (.ok rows.length) ∧
      (run s k capacity r c d (turns ++ more)).writer.connection.written = d.written ++ rows := by
  obtain ⟨more, result, result', hreader, hwriter⟩ := run_finishes s k hcapacity r c d turns
  obtain ⟨sent, hrun⟩ := consistent_run s k capacity r c d (turns ++ more)
  obtain ⟨rfl, rfl⟩ := hrun.succeeds hf hreader hwriter
  refine ⟨more, hreader, hwriter, ?_⟩
  obtain ⟨all, hwritten, hall, -⟩ := hrun.captures_all hreader hwriter
  rw [hwritten, map_ok_injective (hall.trans hf.conversions_eq)]

end Pipeline

end TableTransfer
