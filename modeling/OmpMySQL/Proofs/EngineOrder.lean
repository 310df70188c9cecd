import OmpMySQL.Proofs.EngineFlow

/-! The stages of the engine conserve jobs and their order. -/

namespace OmpMySQL.Engine
open Library

variable {κ : Type}

def Each (holds : κ → ConnectionWorker κ → Prop) (state : State κ) : Prop :=
  ∀ conn worker, state.workers conn = some worker → holds conn worker

/-- A worker told to stop has the main thread waiting for it, and a worker that
has left its loop has nothing queued. -/
structure Kept (main : Main κ) (conn : κ) (worker : ConnectionWorker κ) : Prop where
  stopped : worker.running = false → main = .joining conn
  exited : worker.thread = .exited → worker.running = false ∧ worker.input = []

def Sound (state : State κ) : Prop := Each (Kept state.main) state

theorem sound_initial : Sound ({} : State κ) := by
  intro conn worker found
  cases found

theorem Kept.live {main : Main κ} {conn : κ} {worker : ConnectionWorker κ} (kept : Kept main conn worker)
    (apart : main ≠ .joining conn) : worker.running = true ∧ worker.thread ≠ .exited := by
  have running : worker.running = true := by
    cases running : worker.running with
    | true => rfl
    | false => exact False.elim (apart (kept.stopped running))
  refine ⟨running, ?_⟩
  intro exited
  have stopped := (kept.exited exited).1
  simp [running] at stopped

theorem Kept.of_live {main : Main κ} {conn : κ} {worker : ConnectionWorker κ}
    (running : worker.running = true) (inside : worker.thread ≠ .exited) : Kept main conn worker :=
  ⟨fun stopped => by simp [running] at stopped, fun exited => False.elim (inside exited)⟩

theorem Kept.elsewhere {main next : Main κ} {conn : κ} {worker : ConnectionWorker κ}
    (kept : Kept main conn worker) (apart : main ≠ .joining conn) : Kept next conn worker :=
  .of_live (kept.live apart).1 (kept.live apart).2

variable [DecidableEq κ]

theorem Each.setWorker {holds other : κ → ConnectionWorker κ → Prop} {state : State κ}
    (each : Each holds state) (conn : κ) (worker : ConnectionWorker κ) (updated : other conn worker)
    (kept : ∀ found worker, found ≠ conn → holds found worker → other found worker) :
    Each other (state.setWorker conn worker) := by
  intro found present same
  by_cases here : found = conn
  · subst here
    rw [State.setWorker_same] at same
    cases same
    exact updated
  · rw [State.setWorker_other _ _ _ _ here] at same
    exact kept found present here (each found present same)

theorem Each.update {holds : κ → ConnectionWorker κ → Prop} {state : State κ} (each : Each holds state) {conn : κ}
    (worker : ConnectionWorker κ) (updated : holds conn worker) : Each holds (state.setWorker conn worker) :=
  each.setWorker conn worker updated (fun _ _ _ held => held)

/-- What holds of the other workers holds of all that a join leaves. -/
theorem Each.joined {holds other : κ → ConnectionWorker κ → Prop} {state : State κ} (each : Each holds state)
    (conn : κ) (kept : ∀ found worker, found ≠ conn → holds found worker → other found worker) :
    Each other { state with main := .free, workers := Function.update state.workers conn none } := by
  intro found present same
  have apart : found ≠ conn := by
    intro equal
    subst equal
    simp at same
  simp only [Function.update_of_ne apart] at same
  exact kept found present apart (each found present same)

private theorem Sound.work {state : State κ} (sound : Sound state) {conn : κ} (updated : ConnectionWorker κ)
    (kept : Kept state.main conn updated) : Sound (state.setWorker conn updated) :=
  Each.update sound updated kept

theorem sound_step {state next : State κ} {event : Event κ} (sound : Sound state)
    (moved : Moved state event next) : Sound next := by
  cases moved with
  | create free absent => exact sound.work {} (.of_live rfl (by simp))
  | @enqueue ticket worker free serial signal found =>
    have live := (sound _ _ found).live (by simp [free])
    exact Each.setWorker sound _ _ (.of_live live.1 live.2) (fun _ _ _ held => held.elsewhere (by simp [free]))
  | @runSync ticket worker free serial signal query found running =>
    have live := (sound _ _ found).live (by simp [free])
    exact Each.setWorker sound _ _ (.of_live live.1 live.2) (fun _ _ _ held => held.elsewhere (by simp [free]))
  | @count conn signal worker main found =>
    have live := (sound _ _ found).live (by simp [main])
    exact Each.setWorker sound _ _ (.of_live live.1 live.2) (fun _ _ _ held => held.elsewhere (by simp [main]))
  | wake main member => exact fun conn worker found => (sound conn worker found).elsewhere (by simp [main])
  | @stop conn worker free found running =>
    have live := (sound _ _ found).live (by simp [free])
    exact Each.setWorker sound _ _ ⟨fun _ => rfl, fun exited => False.elim (live.2 exited)⟩
      (fun _ _ _ held => held.elsewhere (by simp [free]))
  | @join conn worker main found exited =>
    refine Each.joined sound conn ?_
    intro other worker apart held
    exact held.elsewhere (by simpa [main] using Ne.symm apart)
  | drain free empty => exact fun conn worker found => (sound conn worker found).elsewhere (by simp [free])
  | dispatch free drained => exact fun conn worker found => (sound conn worker found).elsewhere (by simp [free])
  | call free present quiet => exact sound
  | ask free present asks => exact fun conn worker found => (sound conn worker found).elsewhere (by simp [free])
  | answer main => exact fun conn worker found => (sound conn worker found).elsewhere (by simp [main])
  | pop found thread input =>
    exact sound.work _ ⟨(sound _ _ found).stopped, by simp⟩
  | drop found thread teardown =>
    exact sound.work _ ⟨(sound _ _ found).stopped, by simp⟩
  | send found thread query =>
    exact sound.work _ ⟨(sound _ _ found).stopped, by simp⟩
  | finish found query thread =>
    exact sound.work _ ⟨(sound _ _ found).stopped, by simp⟩
  | deliverAsync found thread async =>
    exact sound.work _ ⟨(sound _ _ found).stopped, by simp⟩
  | deliverSync found thread sync =>
    exact sound.work _ ⟨(sound _ _ found).stopped, by simp⟩
  | uncount found thread =>
    exact sound.work _ ⟨(sound _ _ found).stopped, by simp⟩
  | exit found thread empty stopped =>
    exact sound.work _ ⟨(sound _ _ found).stopped, fun _ => ⟨stopped, empty⟩⟩

section Laws
variable {α : Type} {list : ConnectionWorker κ → List α} {input output : Event κ → List α}
  {state next : State κ} {event : Event κ} {conn other : κ} {worker updated : ConnectionWorker κ}

private theorem work_conserved (found : state.workers other = some worker)
    (workers : next.workers = (state.setWorker other updated).workers)
    (here : other = conn → output event ++ list updated = list worker ++ input event)
    (away : other ≠ conn → output event = [] ∧ input event = []) :
    Conserves (State.read list conn) input output state event next := by
  rw [Conserves]
  have after : next.read list conn = (state.setWorker other updated).read list conn := by
    simp only [State.read, workers]
  rw [after, State.read_setWorker]
  by_cases same : other = conn
  · subst same
    simpa [State.read, found] using here rfl
  · obtain ⟨out, inp⟩ := away same
    simp [same, out, inp]

omit [DecidableEq κ] in
private theorem idle_conserved (workers : next.workers = state.workers)
    (out : output event = []) (inp : input event = []) :
    Conserves (State.read list conn) input output state event next := by
  simp [Conserves, State.read, workers, out, inp]

private theorem create_conserved (absent : state.workers other = none) (fresh : list {} = [])
    (out : output event = []) (inp : input event = []) :
    Conserves (State.read list conn) input output state event (state.setWorker other {}) := by
  rw [Conserves]
  rw [State.read_setWorker]
  by_cases same : other = conn
  · subst same
    simp [State.read, absent, fresh, out, inp]
  · simp [same, out, inp]

private theorem join_conserved (found : state.workers other = some worker) (left : list worker = [])
    (out : output event = []) (inp : input event = []) :
    Conserves (State.read list conn) input output state event
      { state with workers := Function.update state.workers other none, main := .free } := by
  by_cases same : other = conn
  · subst same
    simp [Conserves, State.read, found, left, out, inp]
  · simp [Conserves, State.read, Function.update_of_ne (Ne.symm same), out, inp]

theorem input_conserved (sound : Sound state) (moved : Moved state event next) (conn : κ) :
    Conserves (State.read ConnectionWorker.input conn) (fun event => ofConn conn event.enqueued)
      (fun event => ofConn conn event.begun) state event next := by
  cases moved with
  | create free absent => exact create_conserved absent rfl rfl rfl
  | join main found exited => exact join_conserved found ((sound _ _ found).exited exited).2 rfl rfl
  | enqueue free serial signal found | runSync free serial signal query found running =>
    apply work_conserved found
    · rfl
    · intro same
      simp [Event.begun, Event.enqueued, ofConn, ConnectionWorker.push, same]
    · intro apart
      simp [Event.begun, Event.enqueued, ofConn, apart]
  | pop found thread input =>
    apply work_conserved found rfl
    · intro same
      simp [Event.begun, Event.enqueued, ofConn, same, input]
    · intro apart
      simp [Event.begun, Event.enqueued, ofConn, apart]
  | count main found | stop free found running | drop found thread teardown | send found thread query
  | finish found query thread | deliverAsync found thread async | deliverSync found thread sync
  | uncount found thread | exit found thread empty stopped =>
    apply work_conserved found
    · rfl
    · intro same
      simp [Event.begun, Event.enqueued, ofConn]
    · exact fun _ => ⟨rfl, rfl⟩
  | wake | drain | dispatch | call | ask | answer => exact idle_conserved rfl rfl rfl

theorem unrun_conserved (moved : Moved state event next) (conn : κ) :
    Conserves (State.read (fun worker => worker.thread.unrun) conn) (fun event => ofConn conn event.begun)
      (fun event => ofConn conn event.executed) state event next := by
  cases moved with
  | create free absent => exact create_conserved absent rfl rfl rfl
  | join main found exited => exact join_conserved found (by simp [exited, Thread.unrun]) rfl rfl
  | pop found thread input =>
    apply work_conserved found rfl
    · intro same
      simp [Event.begun, Event.executed, ofConn, Thread.unrun, thread, same]
    · intro apart
      simp [Event.begun, Event.executed, ofConn, apart]
  | drop found thread teardown =>
    apply work_conserved found rfl
    · intro same
      simp [Event.begun, Event.executed, ofConn, Thread.unrun, thread, same]
    · intro apart
      simp [Event.begun, Event.executed, ofConn, apart]
  | finish found query thread =>
    apply work_conserved found rfl
    · intro same
      rcases thread with thread | ⟨thread, failed⟩ <;>
        simp [Event.begun, Event.executed, ofConn, Thread.unrun, thread, same]
    · intro apart
      simp [Event.begun, Event.executed, ofConn, apart]
  | send found thread query =>
    refine work_conserved found rfl ?_ (fun _ => ⟨rfl, rfl⟩)
    intro same
    simp [Event.begun, Event.executed, ofConn, Thread.unrun, thread]
  | deliverAsync found thread async | deliverSync found thread sync | uncount found thread
  | exit found thread empty stopped =>
    apply work_conserved found
    · rfl
    · intro same
      simp [Event.begun, Event.executed, ofConn, Thread.unrun, thread]
    · exact fun _ => ⟨rfl, rfl⟩
  | enqueue free serial signal found | runSync free serial signal query found running
  | count main found | stop free found running =>
    apply work_conserved found
    · rfl
    · intro same
      simp [Event.begun, Event.executed, ofConn, ConnectionWorker.push]
    · exact fun _ => ⟨rfl, rfl⟩
  | wake | drain | dispatch | call | ask | answer => exact idle_conserved rfl rfl rfl

theorem ran_conserved (moved : Moved state event next) (conn : κ) :
    Conserves (State.read (fun worker => worker.thread.ran) conn) (fun event => doneOn conn event.finished)
      (fun event => doneOn conn event.delivered) state event next := by
  cases moved with
  | create free absent => exact create_conserved absent rfl rfl rfl
  | join main found exited => exact join_conserved found (by simp [exited, Thread.ran]) rfl rfl
  | finish found query thread =>
    apply work_conserved found rfl
    · intro same
      rcases thread with thread | ⟨thread, failed⟩ <;>
        simp [Event.finished, Event.delivered, doneOn, Thread.ran, thread, same]
    · intro apart
      simp [Event.finished, Event.delivered, doneOn, apart]
  | deliverAsync found thread async | deliverSync found thread sync =>
    apply work_conserved found
    · rfl
    · intro same
      simp [Event.finished, Event.delivered, doneOn, Thread.ran, thread, same]
    · intro apart
      simp [Event.finished, Event.delivered, doneOn, apart]
  | pop found thread input | drop found thread teardown | send found thread query
  | uncount found thread | exit found thread empty stopped =>
    refine work_conserved found rfl ?_ (fun _ => ⟨rfl, rfl⟩)
    intro same
    simp [Event.finished, Event.delivered, doneOn, Thread.ran, thread]
  | enqueue free serial signal found | runSync free serial signal query found running
  | count main found | stop free found running =>
    apply work_conserved found
    · rfl
    · intro same
      simp [Event.finished, Event.delivered, doneOn, ConnectionWorker.push]
    · exact fun _ => ⟨rfl, rfl⟩
  | wake | drain | dispatch | call | ask | answer => exact idle_conserved rfl rfl rfl

theorem queries_conserved (sound : Sound state) (moved : Moved state event next) (conn : κ) :
    Conserves (State.read ConnectionWorker.queries conn) (fun event => (ofConn conn event.enqueued).filter Ticket.isQuery)
      (fun event => (doneOn conn event.delivered).map Finished.ticket) state event next := by
  cases moved with
  | create free absent => exact create_conserved absent rfl rfl rfl
  | @join target worker main found exited =>
    have left : worker.queries = [] := by
      simp [ConnectionWorker.queries, Thread.queries, exited, ((sound _ _ found).exited exited).2]
    exact join_conserved found left rfl rfl
  | enqueue free serial signal found | runSync free serial signal query found running =>
    apply work_conserved found
    · rfl
    · intro same
      simp [Event.delivered, Event.enqueued, ofConn, doneOn, ConnectionWorker.queries, ConnectionWorker.push, same]
    · intro apart
      simp [Event.delivered, Event.enqueued, ofConn, doneOn, apart]
  | deliverAsync found thread async | deliverSync found thread sync =>
    apply work_conserved found
    · rfl
    · intro same
      simp [Event.delivered, Event.enqueued, ofConn, doneOn, ConnectionWorker.queries, Thread.queries, thread, same]
    · intro apart
      simp [Event.delivered, Event.enqueued, ofConn, doneOn, apart]
  | finish found query thread =>
    refine work_conserved found rfl ?_ (fun _ => ⟨rfl, rfl⟩)
    intro same
    rcases thread with thread | ⟨thread, failed⟩ <;>
      simp [Event.delivered, Event.enqueued, ofConn, doneOn, ConnectionWorker.queries, Thread.queries, thread, query]
  | @pop ticket worker rest found thread input =>
    refine work_conserved found rfl ?_ (fun _ => ⟨rfl, rfl⟩)
    intro same
    cases query : ticket.isQuery <;>
      simp [Event.delivered, Event.enqueued, ofConn, doneOn, ConnectionWorker.queries, Thread.queries, thread, input, query]
  | drop found thread query | send found thread query =>
    refine work_conserved found rfl ?_ (fun _ => ⟨rfl, rfl⟩)
    intro same
    simp [Event.delivered, Event.enqueued, ofConn, doneOn, ConnectionWorker.queries, Thread.queries, thread, query]
  | uncount found thread | exit found thread empty stopped =>
    refine work_conserved found rfl ?_ (fun _ => ⟨rfl, rfl⟩)
    intro same
    simp [Event.delivered, Event.enqueued, ofConn, doneOn, ConnectionWorker.queries, Thread.queries, thread]
  | count main found | stop free found running =>
    refine work_conserved found rfl ?_ (fun _ => ⟨rfl, rfl⟩)
    intro same
    simp [Event.delivered, Event.enqueued, ofConn, doneOn, ConnectionWorker.queries]
  | wake | drain | dispatch | call | ask | answer => exact idle_conserved rfl rfl rfl

omit conn other worker updated in
theorem sink_conserved (moved : Moved state event next) :
    Conserves (fun state => state.drained ++ state.completed)
      (fun event => event.delivered.filter (·.ticket.isAsync)) Event.dispatched state event next := by
  rw [Conserves]
  cases moved with
  | drain free empty => simp [Event.dispatched, Event.delivered, empty]
  | dispatch free drained => simp [Event.dispatched, Event.delivered, drained]
  | deliverAsync found thread async => simp [Event.dispatched, Event.delivered, async]
  | deliverSync found thread sync => simp [Event.dispatched, Event.delivered, sync]
  | _ => simp [Event.dispatched, Event.delivered]

theorem promised_counted (moved : Moved state event next) (done : Finished κ) :
    event.returned.count done + next.promised.count done =
      state.promised.count done + (event.delivered.filter (!·.ticket.isAsync)).count done := by
  cases moved with
  | @wake taken main member =>
    by_cases same : taken = done
    · subst same
      have present := List.count_pos_iff.mpr member
      simp [Event.returned, Event.delivered, List.count_erase_self]
      omega
    · simp [Event.returned, Event.delivered, List.count_erase_of_ne (Ne.symm same), same]
  | deliverAsync found thread async => simp [Event.returned, Event.delivered, async]
  | deliverSync found thread sync => simp [Event.returned, Event.delivered, sync]
  | _ => simp [Event.returned, Event.delivered]

theorem serials_step (moved : Moved state event next) :
    event.enqueued.map Ticket.serial = (List.range (next.issued - state.issued)).map (state.issued + ·) ∧
      state.issued ≤ next.issued := by
  cases moved with
  | enqueue free serial signal found => simp [Event.enqueued, serial]
  | runSync free serial signal query found running => simp [Event.enqueued, serial]
  | _ => simp [Event.enqueued]

end Laws

end OmpMySQL.Engine
