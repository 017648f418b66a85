import EndpointCall.Proofs.BulkPool
import EndpointCall.Service.Scripted
/-! The pool's own schedule is one of the machine's runs. -/
namespace EndpointCall.Bulk

variable {α β σ : Type} {L : Listeners σ α β} {svc : Service σ} {budget : Nat}

namespace Runs

theorem single {x y : Run α β × σ} {es : List (Event α β)} (h : Move L svc budget x es y) :
    Runs L svc budget x es y := by
  simpa using Runs.tail (Runs.refl x) h

theorem trans {x y z : Run α β × σ} {es es' : List (Event α β)} (h₁ : Runs L svc budget x es y)
    (h₂ : Runs L svc budget y es' z) : Runs L svc budget x (es ++ es') z := by
  induction h₂ with
  | refl => simpa using h₁
  | tail _ hm ih => simpa using ih.tail hm

end Runs

namespace Run

variable {r r' : Run α β} {s s' : σ} {log : List (Event α β)}

theorem workStep_runs (hi : PoolInv r log) (hst : r.started = true) {i : Nat}
    (h : (r.workStep L svc i).run s = (.ok r', s')) :
    ∃ es, Runs L svc budget (r, s) es (r', s') ∧ r'.started = true := by
  unfold workStep at h
  split at h
  · rename_i ctx batch n hw
    unfold attempt at h
    split at h <;> rename_i ha
    · obtain ⟨rfl, rfl⟩ := act_run_pure.1 h
      obtain ⟨lv, hl⟩ := leave_eq r i .stopped
      exact ⟨[], .single (.abandon i ctx batch n hst hw ha), by rw [hl]; exact hst⟩
    · rw [act_run_bind, act_run_lift] at h
      obtain ⟨p, hs⟩ := afterCall_settled hi.pooled hi.input h
      exact ⟨_, .single (.call i ctx batch n _ hst hw (by simpa using ha) rfl h),
        hs.started.trans hst⟩
  · rename_i ctx hw
    obtain ⟨rfl, rfl⟩ := act_run_pure.1 h
    refine ⟨_, .single (.take i ctx hst hw), ?_⟩
    rcases take_cases hw hi.input with ⟨-, ht, -⟩ | ⟨ht, -⟩ | ⟨ht, -⟩ <;> rw [ht]
    · exact hst
    · obtain ⟨lv, hl⟩ := leave_eq r i .finished
      rw [hl]; exact hst
    · exact hst
  · obtain ⟨rfl, rfl⟩ := act_run_pure.1 h
    exact ⟨[], .refl _, hst⟩

theorem foldlM_workStep_runs (l : List Nat) (hi : PoolInv r log) (hst : r.started = true)
    (h : (l.foldlM (fun (r : Run α β) i => r.workStep L svc i) r : Act σ (Run α β)).run s =
      (.ok r', s')) :
    ∃ es, Runs L svc budget (r, s) es (r', s') ∧ r'.started = true := by
  induction l generalizing r s log with
  | nil =>
    obtain ⟨rfl, rfl⟩ := act_run_pure.1 h
    exact ⟨[], .refl _, hst⟩
  | cons i l ih =>
    rw [List.foldlM_cons, act_run_bind] at h
    split at h
    · rename_i r₁ s₁ h₁
      obtain ⟨es₁, hr₁, hst₁⟩ := workStep_runs hi hst h₁
      obtain ⟨es₂, hr₂, hst₂⟩ := ih (hi.runs hr₁) hst₁ h
      exact ⟨_, hr₁.trans hr₂, hst₂⟩
    · cases h

theorem drive_runs (fuel : Nat) (hi : PoolInv r log) (hst : r.started = true)
    (h : (r.drive L svc fuel).run s = (.ok r', s')) :
    ∃ es, Runs L svc budget (r, s) es (r', s') ∧ r'.allGone = true := by
  induction fuel generalizing r s log with
  | zero =>
    unfold drive at h
    split at h <;> rename_i hg
    · obtain ⟨rfl, rfl⟩ := act_run_pure.1 h
      exact ⟨[], .refl _, hg⟩
    · cases h
  | succ fuel ih =>
    unfold drive at h
    split at h <;> rename_i hg
    · obtain ⟨rfl, rfl⟩ := act_run_pure.1 h
      exact ⟨[], .refl _, hg⟩
    · rw [act_run_bind] at h
      split at h
      · rename_i r₁ s₁ h₁
        obtain ⟨es₁, hr₁, hst₁⟩ := foldlM_workStep_runs _ hi hst h₁
        obtain ⟨es₂, hr₂, hg₂⟩ := ih (hi.runs hr₁) hst₁ h
        exact ⟨_, hr₁.trans hr₂, hg₂⟩
      · cases h

theorem close_ok_started (hp : r.pooled = true) (h : r.close L = (.ok (), r')) :
    r'.pooled = true ∧ r'.started = true := by
  obtain ⟨r₁, hs, rfl⟩ := close_ok h
  obtain ⟨lv, rfl⟩ := start_ok hs
  obtain ⟨st, hw⟩ := wake_eq r
  rw [hw]
  split <;> simp [hp]

theorem await_runs {rep : Report} {r'' : Run α β} (hi : PoolInv r log)
    (h : (r.await L svc budget).run s = (.ok (.ok rep, r''), s')) :
    ∃ es r₁, Runs L svc budget (r, s) es (r₁, s') ∧ r₁.allGone = true ∧
      r₁.finish = (.ok rep, r'') := by
  unfold await at h
  split at h
  · obtain ⟨h, -⟩ := act_run_pure.1 h
    cases h
  rename_i r₀ hc
  obtain ⟨hp, hst⟩ := close_ok_started hi.pooled hc
  have hm : Move L svc budget (r, s) [] ((r.close L).2, s) := .close
  rw [hc] at hm
  unfold drain at h
  simp only [hp, ↓reduceIte] at h
  rw [act_run_bind] at h
  split at h
  · rename_i r₁ s₁ hd
    obtain ⟨hres, rfl⟩ := act_run_pure.1 h
    obtain ⟨es, hr, hg⟩ := drive_runs _ (hi.runs (.single hm)) hst hd
    exact ⟨_, _, (Runs.single hm).trans hr, hg, hres⟩
  · cases h

theorem holdingCount_eq_zero (hg : r.allGone = true) : r.holdingCount = 0 := by
  unfold holdingCount phases
  refine List.countP_eq_zero.2 fun p hp => ?_
  obtain ⟨w, hw, rfl⟩ := List.mem_map.1 hp
  have hgone := List.all_eq_true.1 hg w hw
  cases hph : w.phase <;> simp_all [Phase.isGone, Phase.isHolding]

theorem finish_ok {rep : Report} (h : r.finish = (.ok rep, r')) :
    r.aborted = false ∧ rep.calls = r.calls ∧ rep.skipped = r.skipped ∧
      rep.unprocessed = r.queue.length := by
  unfold finish at h
  split at h
  · cases h
  · rename_i ha
    simp only [Prod.mk.injEq, Except.ok.injEq] at h
    obtain ⟨rfl, -⟩ := h
    exact ⟨by simpa using ha, rfl, rfl, rfl⟩

end Run

theorem PoolInv.report {r r' : Run α β} {log : List (Event α β)} {rep : Report}
    (hi : PoolInv r log) (hg : r.allGone = true) (hf : r.finish = (.ok rep, r')) :
    rep.calls + rep.skipped + Log.stops log = (Log.takenBatches log).length ∧
      (Log.takenBatches log).flatten.length + rep.unprocessed = (Log.queuedItems log).length := by
  obtain ⟨ha, hc, hk, hu⟩ := Run.finish_ok hf
  have hcount := hi.count ha
  rw [Run.holdingCount_eq_zero hg] at hcount
  refine ⟨by omega, ?_⟩
  rw [hu, ← List.length_append, hi.fifo]

/-- Pooled workers take the queue in order, call with what they hold, and are reported in full. -/
theorem pooled_queue_fifo_and_report {e : Endpoint α β} {ctxs : List CallContext}
    {r₀ r : Run α β} {s₀ s : σ} {log : List (Event α β)}
    (hin : e.style.takesInput = true) (hnew : Run.new e (.pool ctxs) = .ok r₀)
    (hrun : Runs L svc budget (r₀, s₀) log (r, s)) :
    (Log.takenBatches log).flatten ++ r.queue = Log.queuedItems log ∧
    Log.Owned log ∧
    (∀ pre i b a mid b' a' post, log = pre ++ .called i b a :: (mid ++ .called i b' a' :: post) →
      a.ends = true → ∃ c, Event.took i c ∈ mid) ∧
    ∀ rep r' s', (r.await L svc budget).run s = (.ok (.ok rep, r'), s') →
      ∃ log' r₁, Runs L svc budget (r, s) log' (r₁, s') ∧
        rep.calls + rep.skipped + Log.stops (log ++ log') =
          (Log.takenBatches (log ++ log')).length ∧
        (Log.takenBatches (log ++ log')).flatten.length + rep.unprocessed =
          (Log.queuedItems (log ++ log')).length := by
  have hi : PoolInv r log := by simpa using (PoolInv.init hin hnew).runs hrun
  refine ⟨hi.fifo, hi.owned, fun _ _ _ _ _ _ _ _ hl hend => hi.owned.took_between hl hend, ?_⟩
  intro rep r' s' h
  obtain ⟨log', r₁, hr, hg, hf⟩ := Run.await_runs hi h
  exact ⟨log', r₁, hr, (hi.runs hr).report hg hf⟩

theorem Run.await_ok_of_check {r : Run α β} {s : σ} {p : Report → Bool}
    (h : (((r.await L svc budget).run s).1.toOption.bind (·.1.toOption)).map p = some true) :
    ∃ rep r' s', (r.await L svc budget).run s = (.ok (.ok rep, r'), s') ∧ p rep = true := by
  revert h
  rcases (r.await L svc budget).run s with ⟨_ | ⟨_ | rep, r'⟩, s'⟩ <;>
    simp only [Except.toOption, Option.bind_none, Option.bind_some, Option.map_none,
      Option.map_some, reduceCtorEq, Option.some.injEq, false_imp_iff]
  exact fun h => ⟨rep, r', s', rfl, h⟩

theorem pooled_queue_fifo_run :
    ∃ (e : Endpoint (List UInt8) (List UInt8)) (r₀ r : Run (List UInt8) (List UInt8))
      (s : List ScriptReply) (log : List (Event (List UInt8) (List UInt8))),
      Endpoint.inputOutput (.obj [("$bulk", .obj [("inputBatchSize", .num (.int 2))]),
        ("endpoint", .str "/p.sjs"),
        ("params", .arr [.obj [("datatype", .str "binaryDocument"), ("multiple", .bool true),
          ("name", .str "input"), ("nullable", .bool true)]]),
        ("return", .obj [("datatype", .str "binaryDocument"), ("multiple", .bool true),
          ("nullable", .bool true)])]) Handle.bytes Handle.bytes {} = .ok e ∧
      Run.new e (.pool [{}]) = .ok r₀ ∧
      Runs Listeners.retrying Service.scripted 4
        (r₀, [.failure (.transport "down"), .multiple [⟨none, [7]⟩], .multiple [⟨none, [8]⟩]])
        log (r, s) ∧
      r.queue = [[3]] ∧ Log.takenBatches log = [[[1], [2]]] ∧
      (Log.takenBatches log).flatten ++ r.queue = Log.queuedItems log ∧
      ∃ (rep : Report) (r' : Run (List UInt8) (List UInt8)) (s' : List ScriptReply),
        (r.await Listeners.retrying Service.scripted 4).run s = (.ok (.ok rep, r'), s') ∧
        rep.calls = 2 ∧ rep.skipped = 0 ∧ rep.unprocessed = 0 ∧
        ∃ log' r₁, Runs Listeners.retrying Service.scripted 4 (r, s) log' (r₁, s') ∧
          rep.calls + rep.skipped + Log.stops (log ++ log') =
            (Log.takenBatches (log ++ log')).length ∧
          (Log.takenBatches (log ++ log')).flatten.length + rep.unprocessed =
            (Log.queuedItems (log ++ log')).length := by
  obtain ⟨e, r₀, r, s, log, he, hnew, hin, hrun, hq, htk, hrep⟩ :
      ∃ (e : Endpoint (List UInt8) (List UInt8)) (r₀ r : Run (List UInt8) (List UInt8))
        (s : List ScriptReply) (log : List (Event (List UInt8) (List UInt8))),
      Endpoint.inputOutput (.obj [("$bulk", .obj [("inputBatchSize", .num (.int 2))]),
        ("endpoint", .str "/p.sjs"),
        ("params", .arr [.obj [("datatype", .str "binaryDocument"), ("multiple", .bool true),
          ("name", .str "input"), ("nullable", .bool true)]]),
        ("return", .obj [("datatype", .str "binaryDocument"), ("multiple", .bool true),
          ("nullable", .bool true)])]) Handle.bytes Handle.bytes {} = .ok e ∧
      Run.new e (.pool [{}]) = .ok r₀ ∧ e.style.takesInput = true ∧
      Runs Listeners.retrying Service.scripted 4
        (r₀, [.failure (.transport "down"), .multiple [⟨none, [7]⟩], .multiple [⟨none, [8]⟩]])
        log (r, s) ∧
      r.queue = [[3]] ∧ Log.takenBatches log = [[[1], [2]]] ∧
      (((r.await Listeners.retrying Service.scripted
        4).run s).1.toOption.bind (·.1.toOption)).map
          (fun rep => rep.calls == 2 && rep.skipped == 0 && rep.unprocessed == 0) = some true :=
    ⟨_, _, _, _, _, rfl, rfl, rfl,
      .tail (.tail (.tail (.tail (.tail (.tail (.refl _)
        (Move.offer [1] .queued rfl))
        (Move.offer [2] .queued rfl))
        (Move.offer [3] .queued rfl))
        (Move.take 0 {} rfl rfl))
        (Move.call 0 {} [[1], [2]] 0 _ rfl rfl rfl rfl rfl))
        (Move.call 0 {} [[1], [2]] 1 _ rfl rfl rfl rfl rfl),
      by decide +kernel, by decide +kernel, by decide +kernel⟩
  obtain ⟨rep, r', s', hawait, hsums⟩ := Run.await_ok_of_check hrep
  simp only [Bool.and_eq_true, beq_iff_eq] at hsums
  obtain ⟨⟨hc, hsk⟩, hun⟩ := hsums
  have h := pooled_queue_fifo_and_report hin hnew hrun
  exact ⟨e, r₀, r, s, log, he, hnew, hrun, hq, htk, h.1, rep, r', s', hawait, hc, hsk, hun,
    h.2.2.2 rep r' s' hawait⟩

end EndpointCall.Bulk
