import EndpointCall.Call.Endpoint
import EndpointCall.Service.Scripted
/-! What a single call does to its context. -/
namespace EndpointCall

variable {α β σ γ δ : Type}

theorem callM_run_bind (x : CallM σ γ) (f : γ → CallM σ δ) (ctx : CallContext) (s : σ) :
    ((x >>= f).run.run ctx).run s = match (x.run.run ctx).run s with
      | ((.ok a, ctx'), s') => ((f a).run.run ctx').run s'
      | ((.error e, ctx'), s') => ((.error e, ctx'), s') := by
  simp only [bind, ExceptT.bind, ExceptT.mk, ExceptT.run, StateT.bind, StateT.run, ExceptT.bindCont]
  rcases x ctx s with ⟨⟨_ | a, ctx'⟩, s'⟩ <;> rfl

@[simp] theorem callM_run_get (ctx : CallContext) (s : σ) :
    ((get : CallM σ CallContext).run.run ctx).run s = ((.ok ctx, ctx), s) := rfl

@[simp] theorem callM_run_lift (x : Except Error γ) (ctx : CallContext) (s : σ) :
    ((monadLift x : CallM σ γ).run.run ctx).run s = ((x, ctx), s) := rfl

@[simp] theorem callM_run_pure (a : γ) (ctx : CallContext) (s : σ) :
    ((pure a : CallM σ γ).run.run ctx).run s = ((.ok a, ctx), s) := rfl

@[simp] theorem callM_run_throw (e : Error) (ctx : CallContext) (s : σ) :
    ((throw e : CallM σ γ).run.run ctx).run s = ((.error e, ctx), s) := rfl

@[simp] theorem callM_run_modify (f : CallContext → CallContext) (ctx : CallContext) (s : σ) :
    ((modify f : CallM σ Unit).run.run ctx).run s = ((.ok (), f ctx), s) := rfl

namespace Caller

@[simp] theorem sendOn_run (svc : Service σ) (req : Request) (shape : ResponseShape)
    (ctx : CallContext) (s : σ) :
    ((sendOn svc req shape).run.run ctx).run s =
      ((((send svc req shape).run s).1, ctx), ((send svc req shape).run s).2) := rfl

def leadState : List Document → Option (List UInt8)
  | d :: _ => if d.bytes.isEmpty then none else some d.bytes
  | [] => none

/-- What a call that got the answer `resp` leaves of the context `ctx`. -/
structure Leaves (c : Caller α β) (ctx ctx' : CallContext) (resp : Response) : Prop where
  session : ctx'.session = ctx.session
  constants : ctx'.constants = ctx.constants
  endpointState : ctx'.endpointState =
    if c.decl.endpointState.isSome then leadState (documents resp) else ctx.endpointState

/-- How a step that sends `req` treats the context. -/
def Answers (c : Caller α β) (svc : Service σ) (req : Request) (m : CallM σ γ)
    (returns : Response → γ → Prop) : Prop :=
  ∀ ctx s res ctx' s', ((m.run).run ctx).run s = ((res, ctx'), s') →
    (∀ e, res = .error e → ctx' = ctx) ∧
    ∀ v, res = .ok v → ∃ shape resp, (send svc req shape).run s = (.ok resp, s') ∧
      c.Leaves ctx ctx' resp ∧ returns resp v

def Law (c : Caller α β) (svc : Service σ) (input : Option (List α)) (m : CallM σ γ)
    (returns : Response → γ → Prop) : Prop :=
  ∀ ctx s res ctx' s', ((m.run).run ctx).run s = ((res, ctx'), s') →
    (∀ e, res = .error e → ctx' = ctx) ∧
    ∀ v, res = .ok v → ∃ req shape resp, c.makeRequest ctx input = .ok req ∧
      (send svc req shape).run s = (.ok resp, s') ∧ c.Leaves ctx ctx' resp ∧ returns resp v

def Decodes (c : Caller α β) (resp : Response) (outs : List β) : Prop :=
  ∃ h r, c.output = some h ∧ c.decl.returns = some r ∧
    ((documents resp).drop (if c.decl.endpointState.isSome then 1 else 0)).mapM
      (fun d => h.decode d.bytes r.format) = .ok outs

theorem splitState_fst (c : Caller α β) (docs : List Document) :
    (c.splitState docs).1 = if c.decl.endpointState.isSome then leadState docs else none := by
  unfold splitState
  cases hs : c.decl.endpointState <;> cases docs <;> simp [leadState]

theorem splitState_snd (c : Caller α β) (docs : List Document) :
    (c.splitState docs).2 = docs.drop (if c.decl.endpointState.isSome then 1 else 0) := by
  unfold splitState
  cases hs : c.decl.endpointState <;> cases docs <;> simp

theorem leaves_withState (c : Caller α β) (ctx : CallContext) (resp : Response)
    {st : Option (List UInt8)}
    (hst : c.decl.endpointState.isSome → st = leadState (documents resp)) :
    c.Leaves ctx (c.withState ctx st) resp := by
  unfold withState
  cases hs : c.decl.endpointState.isSome
  · exact ⟨rfl, rfl, by simp only [hs, Bool.false_eq_true, ↓reduceIte]⟩
  · exact ⟨rfl, rfl, by simp only [hs, ↓reduceIte, hst hs]⟩

theorem law_of_answers {c : Caller α β} {svc : Service σ} {input : Option (List α)}
    {k : Request → CallM σ γ} {returns : Response → γ → Prop}
    (hk : ∀ req, Answers c svc req (k req) returns) :
    Law c svc input (do let req ← c.makeRequest (← get) input; k req) returns := by
  intro ctx s res ctx' s' h
  simp only [callM_run_bind, callM_run_get, callM_run_lift] at h
  cases hreq : c.makeRequest ctx input with
  | error e =>
    rw [hreq] at h
    cases h
    exact ⟨fun _ _ => rfl, fun _ hv => by cases hv⟩
  | ok req =>
    rw [hreq] at h
    obtain ⟨herr, hok⟩ := hk req ctx s res ctx' s' h
    exact ⟨herr, fun v hv => by
      obtain ⟨shape, resp, hsend, hleaves, hret⟩ := hok v hv
      exact ⟨req, shape, resp, rfl, hsend, hleaves, hret⟩⟩

theorem send_ok {svc : Service σ} {req : Request} {shape : ResponseShape} {s s' : σ}
    {resp : Response} (h : (send svc req shape).run s = (.ok resp, s')) :
    ∃ r, (svc req shape).run s = (.ok r, s') ∧ r.conform shape = .ok resp := by
  unfold send at h
  rcases hs : (svc req shape).run s with ⟨out, s₁⟩
  have h' : (((svc req shape).run s).1 >>= (fun r => r.conform shape),
      ((svc req shape).run s).2) = (.ok resp, s') := h
  rw [hs] at h'
  obtain ⟨hc, rfl⟩ := Prod.mk.inj h'
  cases out with
  | error e => cases hc
  | ok r => exact ⟨r, rfl, hc⟩

theorem conform_single {r resp : Response} {n : Bool} {f : Format}
    (h : r.conform (.single n f) = .ok resp) : ∃ d, resp = .single d := by
  cases r with
  | none => simp only [Response.conform] at h; split at h <;> cases h; exact ⟨_, rfl⟩
  | single v => simp only [Response.conform] at h; split at h <;> cases h; exact ⟨_, rfl⟩
  | multiple ds => cases h

theorem conform_none {r resp : Response} (h : r.conform .none = .ok resp) : resp = .none := by
  cases r <;> simp only [Response.conform] at h <;> cases h <;> rfl

theorem outputHandle_ok {c : Caller α β} {h : Handle β} (hh : c.outputHandle = .ok h) :
    c.output = some h := by
  unfold outputHandle at hh
  split at hh <;> cases hh
  assumption

theorem multipleShape_ok {c : Caller α β} {shape : ResponseShape}
    (h : c.multipleShape = .ok shape) :
    ∃ r, c.decl.returns = some r ∧ shape = .multiple r.nullable r.format := by
  unfold multipleShape at h
  split at h
  · rename_i r hr
    split at h
    · cases h; exact ⟨r, hr, rfl⟩
    · cases h
  · cases h

theorem singleShape_ok {c : Caller α β} {shape : ResponseShape} (h : c.singleShape = .ok shape) :
    ∃ r, c.decl.returns = some r ∧ shape = .single r.nullable r.format := by
  unfold singleShape at h
  split at h
  · rename_i r hr
    split at h
    · cases h
    · cases h; exact ⟨r, hr, rfl⟩
  · cases h

theorem responseMultiple_answers (c : Caller α β) (svc : Service σ) (req : Request) :
    Answers c svc req (c.responseMultiple svc req) c.Decodes := by
  intro ctx s res ctx' s' h
  unfold responseMultiple at h
  simp only [callM_run_bind, callM_run_lift, sendOn_run, callM_run_modify, callM_run_pure] at h
  cases hshape : c.multipleShape with
  | error e => simp only [hshape] at h; cases h; exact ⟨fun _ _ => rfl, fun _ hv => by cases hv⟩
  | ok shape =>
  cases hh : c.outputHandle with
  | error e =>
    simp only [hshape, hh] at h; cases h; exact ⟨fun _ _ => rfl, fun _ hv => by cases hv⟩
  | ok hd =>
  rcases hsend : (send svc req shape).run s with ⟨out, s₁⟩
  cases out with
  | error e =>
    simp only [hshape, hh, hsend] at h; cases h; exact ⟨fun _ _ => rfl, fun _ hv => by cases hv⟩
  | ok resp =>
  cases hdec : ((c.splitState (documents resp)).2.mapM fun d =>
      hd.decode d.bytes (shape.format?.getD .unknown)) with
  | error e =>
    simp only [hshape, hh, hsend, hdec] at h
    cases h; exact ⟨fun _ _ => rfl, fun _ hv => by cases hv⟩
  | ok outs =>
    simp only [hshape, hh, hsend, hdec] at h
    cases h
    refine ⟨fun _ he => (nomatch he), fun v hv => ⟨shape, resp, hsend, ?_, ?_⟩⟩
    · exact leaves_withState c ctx resp fun hs => by rw [splitState_fst, if_pos hs]
    · cases hv
      obtain ⟨r, hr, rfl⟩ := multipleShape_ok hshape
      exact ⟨hd, r, outputHandle_ok hh, hr, by rw [← splitState_snd]; exact hdec⟩

theorem responseWithState_answers (c : Caller α β) (svc : Service σ) (req : Request) :
    Answers c svc req (c.responseWithState svc req)
      fun resp b => b = (leadState (documents resp)).isSome := by
  intro ctx s res ctx' s' h
  unfold responseWithState at h
  simp only [callM_run_bind, callM_run_lift, sendOn_run, callM_run_modify, callM_run_pure] at h
  cases hshape : c.singleShape with
  | error e => simp only [hshape] at h; cases h; exact ⟨fun _ _ => rfl, fun _ hv => by cases hv⟩
  | ok shape =>
  rcases hsend : (send svc req shape).run s with ⟨out, s₁⟩
  cases out with
  | error e =>
    simp only [hshape, hsend] at h; cases h; exact ⟨fun _ _ => rfl, fun _ hv => by cases hv⟩
  | ok resp =>
  simp only [hshape, hsend] at h
  cases h
  obtain ⟨r, -, rfl⟩ := singleShape_ok hshape
  obtain ⟨a, -, hc⟩ := send_ok hsend
  obtain ⟨d, rfl⟩ := conform_single hc
  refine ⟨fun _ he => (nomatch he), fun v hv => ⟨_, _, hsend, ?_, ?_⟩⟩
  · exact leaves_withState c ctx _ fun _ => by cases d <;> rfl
  · cases hv; cases d <;> rfl

theorem responseNone_answers (c : Caller α β) (svc : Service σ) (req : Request)
    (hs : c.decl.endpointState = none) :
    Answers c svc req (c.responseNone svc req) fun resp _ => resp = .none := by
  intro ctx s res ctx' s' h
  unfold responseNone at h
  split at h
  · simp only [callM_run_bind, callM_run_throw] at h
    cases h; exact ⟨fun _ _ => rfl, fun _ hv => by cases hv⟩
  simp only [callM_run_bind, sendOn_run, callM_run_pure] at h
  rcases hsend : (send svc req .none).run s with ⟨out, s₁⟩
  cases out with
  | error e => simp only [hsend] at h; cases h; exact ⟨fun _ _ => rfl, fun _ hv => by cases hv⟩
  | ok resp =>
    simp only [hsend] at h
    cases h
    obtain ⟨a, -, hc⟩ := send_ok hsend
    cases conform_none hc
    refine ⟨fun _ he => (nomatch he), fun _ _ => ⟨.none, .none, hsend, ⟨rfl, rfl, ?_⟩, rfl⟩⟩
    simp only [hs, Option.isSome_none, Bool.false_eq_true, ↓reduceIte]

theorem Answers.mono {c : Caller α β} {svc : Service σ} {req : Request} {m : CallM σ γ}
    {R R' : Response → γ → Prop} (hm : Answers c svc req m R)
    (hR : ∀ resp a, R resp a → R' resp a) : Answers c svc req m R' := by
  intro ctx s res ctx' s' h
  obtain ⟨herr, hok⟩ := hm ctx s res ctx' s' h
  refine ⟨herr, fun v hv => ?_⟩
  obtain ⟨shape, resp, hsend, hl, hr⟩ := hok v hv
  exact ⟨shape, resp, hsend, hl, hR _ _ hr⟩

theorem Answers.bind_pure {c : Caller α β} {svc : Service σ} {req : Request} {m : CallM σ γ}
    {R : Response → γ → Prop} {R' : Response → δ → Prop} (f : γ → δ)
    (hm : Answers c svc req m R) (hf : ∀ resp a, R resp a → R' resp (f a)) :
    Answers c svc req (m >>= fun a => pure (f a)) R' := by
  intro ctx s res ctx' s' h
  simp only [callM_run_bind] at h
  rcases hr : ((m.run).run ctx).run s with ⟨⟨out, ctx₁⟩, s₁⟩
  obtain ⟨herr, hok⟩ := hm ctx s out ctx₁ s₁ hr
  cases out with
  | error e =>
    simp only [hr] at h
    cases h
    exact ⟨fun _ _ => herr e rfl, fun _ hv => by cases hv⟩
  | ok a =>
    simp only [hr, callM_run_pure] at h
    cases h
    obtain ⟨shape, resp, hsend, hl, hR⟩ := hok a rfl
    exact ⟨fun _ he => (nomatch he),
      fun _ hv => by cases hv; exact ⟨shape, resp, hsend, hl, hf _ _ hR⟩⟩

theorem failures_keep_context {c : Caller α β} {svc : Service σ} {ms : List (CallM σ γ)}
    (hl : ∀ m ∈ ms, ∃ input R, Law c svc input m R) {ctx : CallContext} {s : σ}
    {rs : List (Except Error γ)} {ctx' : CallContext} {s' : σ}
    (h : ((ms.mapM ExceptT.run).run ctx).run s = ((rs, ctx'), s'))
    (hf : ∀ r ∈ rs, ∃ err, r = .error err) : ctx' = ctx := by
  induction ms generalizing ctx s rs with
  | nil =>
    simp only [List.mapM_nil] at h
    cases h; rfl
  | cons m ms ih =>
    simp only [List.mapM_cons, StateT.run_bind] at h
    rcases hm : ((ExceptT.run m).run ctx).run s with ⟨⟨r, ctx₁⟩, s₁⟩
    rcases hr : ((List.mapM ExceptT.run ms).run ctx₁).run s₁ with ⟨⟨rs₁, ctx₂⟩, s₂⟩
    rw [hm] at h
    dsimp only [bind, Id.run] at h
    rw [hr] at h
    change ((r :: rs₁, ctx₂), s₂) = ((rs, ctx'), s') at h
    cases h
    obtain ⟨err, rfl⟩ := hf r (List.mem_cons_self ..)
    obtain ⟨input, R, hlaw⟩ := hl m (List.mem_cons_self ..)
    have h₁ : ctx₁ = ctx := (hlaw ctx s _ ctx₁ s₁ hm).1 err rfl
    rw [ih (fun m' hm' => hl m' (List.mem_cons_of_mem _ hm')) hr
      (fun r' hr' => hf r' (List.mem_cons_of_mem _ hr')), h₁]

end Caller

theorem stateMatchesReturn_ok {path : String} {st : Option ParamDescriptor}
    {r : Option ReturnDescriptor} {u : Unit} (h : stateMatchesReturn path st r = .ok u) :
    st.isSome → r.isSome := by
  cases st <;> cases r <;> simp_all [stateMatchesReturn]

theorem Declaration.parse_state_returns {j : Json} {hi ho : Bool} {d : Declaration}
    (h : Declaration.parse j hi ho = .ok d) : d.endpointState.isSome → d.returns.isSome := by
  unfold Declaration.parse at h
  simp only [bind, Except.bind] at h
  repeat' split at h
  all_goals try cases h
  all_goals exact stateMatchesReturn_ok ‹_›

theorem Caller.new_decl {j : Json} {hi : Option (Handle α)} {ho : Option (Handle β)}
    {c : Caller α β} (h : Caller.new j hi ho = .ok c) :
    Declaration.parse j hi.isSome ho.isSome = .ok c.decl := by
  unfold Caller.new at h
  simp only [bind, Except.bind] at h
  cases hp : Declaration.parse j hi.isSome ho.isSome with
  | error e => rw [hp] at h; cases h
  | ok d =>
    rw [hp] at h
    dsimp only at h
    repeat' split at h
    all_goals try cases h
    all_goals rfl

namespace Endpoint

theorem facade_ok {j : Json} {hi : Option (Handle α)} {ho : Option (Handle β)} {st : CallStyle}
    {bulk : BulkConfig} {e : Endpoint α β}
    (h : (Caller.new j hi ho).map (fun c => (⟨c, st, bulk⟩ : Endpoint α β)) = .ok e) :
    Caller.new j hi ho = .ok e.caller ∧ e.style = st := by
  cases hc : Caller.new j hi ho with
  | error _ =>
    rw [hc] at h
    cases h
  | ok c =>
    rw [hc] at h
    cases h
    exact ⟨rfl, rfl⟩

theorem callInputOutput_law (e : Endpoint α β) (svc : Service σ) (xs : List α) :
    Caller.Law e.caller svc (some xs) (e.callInputOutput svc xs) e.caller.Decodes :=
  Caller.law_of_answers fun req => Caller.responseMultiple_answers _ svc req

theorem callOutput_law (e : Endpoint α β) (svc : Service σ) :
    Caller.Law e.caller svc none (e.callOutput svc) e.caller.Decodes :=
  Caller.law_of_answers fun req => Caller.responseMultiple_answers _ svc req

theorem callInput_law (e : Endpoint α β) (svc : Service σ) (xs : List α)
    (hf : e.decl.endpointState.isSome → e.decl.returns.isSome) :
    Caller.Law e.caller svc (some xs) (e.callInput svc xs) fun _ _ => True := by
  refine Caller.law_of_answers fun req => ?_
  split
  · exact (Caller.responseWithState_answers _ svc req).bind_pure _ fun _ _ _ => trivial
  · rename_i hr
    have hs : e.caller.decl.endpointState = none :=
      Option.not_isSome_iff_eq_none.1 fun h => hr (hf h)
    exact (Caller.responseNone_answers _ svc req hs).mono fun _ _ _ => trivial

theorem callExec_law (e : Endpoint α β) (svc : Service σ)
    (hf : e.decl.endpointState.isSome → e.decl.returns.isSome) :
    Caller.Law e.caller svc none (e.callExec svc)
      fun resp b => b = (Caller.leadState (Caller.documents resp)).isSome := by
  refine Caller.law_of_answers fun req => ?_
  split
  · exact Caller.responseWithState_answers _ svc req
  · rename_i hr
    have hs : e.caller.decl.endpointState = none :=
      Option.not_isSome_iff_eq_none.1 fun h => hr (hf h)
    refine (Caller.responseNone_answers _ svc req hs).bind_pure (fun _ => false) ?_
    rintro _ _ rfl
    rfl

/-- Failed calls keep the context; successful ones change only the endpoint state. -/
theorem facade_calls_keep_context {j : Json} {hi : Option (Handle α)} {ho : Option (Handle β)}
    {e : Endpoint α β} (hnew : Caller.new j hi ho = .ok e.caller) (svc : Service σ) :
    (∀ xs, Caller.Law e.caller svc (some xs) (e.callInputOutput svc xs) e.caller.Decodes) ∧
    (∀ xs, Caller.Law e.caller svc (some xs) (e.callInput svc xs) fun _ _ => True) ∧
    Caller.Law e.caller svc none (e.callOutput svc) e.caller.Decodes ∧
    Caller.Law e.caller svc none (e.callExec svc)
      (fun resp b => b = (Caller.leadState (Caller.documents resp)).isSome) ∧
    ∀ {γ : Type} (ms : List (CallM σ γ)),
      (∀ m ∈ ms, ∃ input R, Caller.Law e.caller svc input m R) →
      ∀ ctx s rs ctx' s', ((ms.mapM ExceptT.run).run ctx).run s = ((rs, ctx'), s') →
        (∀ r ∈ rs, ∃ err, r = .error err) → ctx' = ctx := by
  have hf : e.decl.endpointState.isSome → e.decl.returns.isSome :=
    Declaration.parse_state_returns (Caller.new_decl hnew)
  exact ⟨e.callInputOutput_law svc, fun xs => e.callInput_law svc xs hf, e.callOutput_law svc,
    e.callExec_law svc hf, fun _ hl _ _ _ _ _ h hfail => Caller.failures_keep_context hl h hfail⟩

theorem facade_call_leaves_answered_state :
    ∃ e : Endpoint (List UInt8) (List UInt8),
      Endpoint.inputOutput (.obj [("endpoint", .str "/p.sjs"),
        ("params", .arr [
          .obj [("datatype", .str "binaryDocument"), ("multiple", .bool false),
            ("name", .str "endpointState"), ("nullable", .bool true)],
          .obj [("datatype", .str "binaryDocument"), ("multiple", .bool true),
            ("name", .str "input"), ("nullable", .bool true)]]),
        ("return", .obj [("datatype", .str "binaryDocument"), ("multiple", .bool true),
          ("nullable", .bool true)])]) Handle.bytes Handle.bytes {} = .ok e ∧
      ((e.callInputOutput Service.scripted [[1]]).run.run { endpointState := some [3] }).run
          [.multiple [⟨none, [5]⟩, ⟨none, [7]⟩]] =
        ((.ok [[7]], { endpointState := some [5] }), []) ∧
      ∃ req shape resp, e.caller.makeRequest { endpointState := some [3] } (some [[1]]) = .ok req ∧
        (Caller.send Service.scripted req shape).run [.multiple [⟨none, [5]⟩, ⟨none, [7]⟩]] =
          (.ok resp, []) ∧
        e.caller.Leaves { endpointState := some [3] } { endpointState := some [5] } resp ∧
        e.caller.Decodes resp [[7]] := by
  obtain ⟨e, he, hrun⟩ : ∃ e : Endpoint (List UInt8) (List UInt8),
      Endpoint.inputOutput (.obj [("endpoint", .str "/p.sjs"),
        ("params", .arr [
          .obj [("datatype", .str "binaryDocument"), ("multiple", .bool false),
            ("name", .str "endpointState"), ("nullable", .bool true)],
          .obj [("datatype", .str "binaryDocument"), ("multiple", .bool true),
            ("name", .str "input"), ("nullable", .bool true)]]),
        ("return", .obj [("datatype", .str "binaryDocument"), ("multiple", .bool true),
          ("nullable", .bool true)])]) Handle.bytes Handle.bytes {} = .ok e ∧
      ((e.callInputOutput Service.scripted [[1]]).run.run { endpointState := some [3] }).run
          [.multiple [⟨none, [5]⟩, ⟨none, [7]⟩]] =
        ((.ok [[7]], { endpointState := some [5] }), []) :=
    ⟨_, rfl, rfl⟩
  exact ⟨e, he, hrun,
    ((facade_calls_keep_context (facade_ok he).1 Service.scripted).1 [[1]] _ _ _ _ _ hrun).2 _ rfl⟩

end Endpoint
end EndpointCall
