import EndpointCall.Proofs.CallStream
import EndpointCall.Bulk.Run
/-! Where the calls of a bulk run can fail. -/
namespace EndpointCall

variable {α β σ γ δ : Type}

def Declaration.answerShape (d : Declaration) : ResponseShape :=
  match d.returns with
  | none => .none
  | some r => if r.multiple then .multiple r.nullable r.format else .single r.nullable r.format

namespace Caller

inductive AnswerFault (c : Caller α β) (svc : Service σ) (req : Request) (s : σ) : Error → Prop
  | send {e : Error} :
      ((send svc req c.decl.answerShape).run s).1 = .error e → AnswerFault c svc req s e
  | decode {e : Error} {resp : Response} {s' : σ} {h : Handle β} {r : ReturnDescriptor}
      {d : Document} :
      (send svc req c.decl.answerShape).run s = (.ok resp, s') → c.output = some h →
      c.decl.returns = some r → d ∈ documents resp → h.decode d.bytes r.format = .error e →
      AnswerFault c svc req s e

def Fault (c : Caller α β) (svc : Service σ) (ctx : CallContext) (input : Option (List α))
    (s : σ) (e : Error) : Prop :=
  c.makeRequest ctx input = .error e ∨
    ∃ req, c.makeRequest ctx input = .ok req ∧ c.AnswerFault svc req s e

end Caller

/-- Every error the call `m` ends with, from `ctx` and the service at `s`, is allowed by `P`. -/
def ErrorsIn (P : CallContext → σ → Error → Prop) (m : CallM σ γ) : Prop :=
  ∀ ctx s e ctx' s', ((m.run).run ctx).run s = ((.error e, ctx'), s') → P ctx s e

namespace ErrorsIn

variable {P : CallContext → σ → Error → Prop} {m : CallM σ γ}

theorem bind_safe {k : γ → CallM σ δ} (hm : ErrorsIn P m)
    (hk : ∀ a ctx s, ∃ b ctx' s', (((k a).run).run ctx).run s = ((.ok b, ctx'), s')) :
    ErrorsIn P (m >>= k) := by
  intro ctx s e ctx' s' h
  rw [callM_run_bind] at h
  rcases hr : ((m.run).run ctx).run s with ⟨⟨_ | a, ctx₁⟩, s₁⟩ <;> rw [hr] at h
  · cases h
    exact hm ctx s _ _ _ hr
  · obtain ⟨b, ctx₂, s₂, hk'⟩ := hk a ctx₁ s₁
    have h' : (((k a).run).run ctx₁).run s₁ = ((.error e, ctx'), s') := h
    rw [hk'] at h'
    cases h'

theorem bind_pure (hm : ErrorsIn P m) (f : γ → δ) : ErrorsIn P (m >>= fun a => pure (f a)) :=
  hm.bind_safe fun a ctx s => ⟨f a, ctx, s, callM_run_pure _ _ _⟩

theorem bind_get_pure (hm : ErrorsIn P m) (f : γ → CallContext → δ) :
    ErrorsIn P (m >>= fun a => get >>= fun ctx => pure (f a ctx)) :=
  hm.bind_safe fun a ctx s => ⟨f a ctx, ctx, s, by rw [callM_run_bind]; rfl⟩

end ErrorsIn

namespace Caller

variable {c : Caller α β} {svc : Service σ} {req : Request}

theorem errorsIn_request {input : Option (List α)} {k : Request → CallM σ γ}
    (hk : ∀ req, ErrorsIn (fun _ s e => c.AnswerFault svc req s e) (k req)) :
    ErrorsIn (fun ctx s e => c.Fault svc ctx input s e)
      (do let req ← c.makeRequest (← get) input; k req) := by
  intro ctx s e ctx' s' h
  simp only [callM_run_bind, callM_run_get, callM_run_lift] at h
  cases hreq : c.makeRequest ctx input with
  | error e' =>
    rw [hreq] at h
    cases h
    exact .inl hreq
  | ok req =>
    rw [hreq] at h
    exact .inr ⟨req, hreq, hk req ctx s e ctx' s' h⟩

theorem responseMultiple_errors {h : Handle β} (hs : c.multipleShape = .ok c.decl.answerShape)
    (hh : c.output = some h) :
    ErrorsIn (fun _ s e => c.AnswerFault svc req s e) (c.responseMultiple svc req) := by
  intro ctx s e ctx' s' hrun
  rcases failsEarly_or_answered c svc req s with ⟨e', s₁, hf⟩ |
    ⟨h', r, resp, s₁, hh', hr, hm, hsend⟩
  · rw [responseMultiple_run_early hf] at hrun
    cases hrun
    cases hf with
    | shape hs' => rw [hs] at hs'; cases hs'
    | handle _ hh'' => rw [outputHandle_eq_ok.2 hh] at hh''; cases hh''
    | transport hs' _ hsvc =>
      rw [hs] at hs'
      cases hs'
      exact .send (by rw [send_run, hsvc]; rfl)
    | conform hs' _ hsvc hc =>
      rw [hs] at hs'
      cases hs'
      exact .send (by rw [send_run, hsvc]; exact hc)
  · have hshape : c.decl.answerShape = .multiple r.nullable r.format := by
      simp [Declaration.answerShape, hr, hm]
    rw [responseMultiple_run_answered hh' hr hm hsend] at hrun
    split at hrun
    · cases hrun
    · rename_i e' hdec
      cases hrun
      obtain ⟨i, -, hat⟩ := (mapM_eq_error_iff _ _ _).1 hdec
      obtain ⟨d, hd, hde⟩ := List.mem_map.1 (List.mem_of_getElem? hat)
      rw [splitState_snd] at hd
      exact .decode (hshape ▸ hsend) hh' hr (List.mem_of_mem_drop hd) hde

theorem responseWithState_errors (hs : c.singleShape = .ok c.decl.answerShape) :
    ErrorsIn (fun _ s e => c.AnswerFault svc req s e) (c.responseWithState svc req) := by
  intro ctx s e ctx' s' h
  unfold responseWithState at h
  simp only [callM_run_bind, callM_run_lift, sendOn_run, callM_run_modify, callM_run_pure, hs] at h
  rcases hsend : (send svc req c.decl.answerShape).run s with ⟨_ | resp, s₁⟩ <;>
    simp only [hsend] at h
  · cases h
    exact .send (by rw [hsend])
  · cases h

theorem responseNone_errors (hr : c.decl.returns = none) :
    ErrorsIn (fun _ s e => c.AnswerFault svc req s e) (c.responseNone svc req) := by
  have hshape : c.decl.answerShape = .none := by simp [Declaration.answerShape, hr]
  intro ctx s e ctx' s' h
  unfold responseNone at h
  simp only [hr, Option.isSome_none, Bool.false_eq_true, ↓reduceIte, callM_run_bind, sendOn_run,
    callM_run_pure] at h
  rcases hsend : (send svc req .none).run s with ⟨_ | resp, s₁⟩ <;> simp only [hsend] at h
  · cases h
    exact .send (by rw [hshape, hsend])
  · cases h

end Caller

theorem CallStyle.check_ok_iff {st : CallStyle} {d : Declaration} :
    st.check d = .ok () ↔ d.returns.any (·.multiple) = st.wantsMultiple := by
  unfold CallStyle.check
  by_cases h : d.returns.any (·.multiple) = st.wantsMultiple <;> simp [h]

namespace Endpoint

variable {e : Endpoint α β}

def bulkInput (e : Endpoint α β) (batch : List α) : Option (List α) :=
  if e.style.takesInput then some batch else none

/-- An endpoint as the facade of its style makes it from the declaration `j`. -/
def FromFacade (j : Json) (e : Endpoint α β) : Prop :=
  ∃ hi ho, Caller.new j hi ho = .ok e.caller ∧ hi.isSome = e.style.takesInput ∧
    ho.isSome = e.style.wantsMultiple

theorem FromFacade.of_new {j : Json} {hi : Option (Handle α)} {ho : Option (Handle β)}
    {st : CallStyle} {bulk : BulkConfig} (hin : hi.isSome = st.takesInput)
    (hout : ho.isSome = st.wantsMultiple)
    (h : (Caller.new j hi ho).map (fun c => (⟨c, st, bulk⟩ : Endpoint α β)) = .ok e) :
    e.FromFacade j := by
  obtain ⟨hc, rfl⟩ := facade_ok h
  exact ⟨hi, ho, hc, hin, hout⟩

theorem outputOnly_fromFacade {j : Json} {oh : Handle β} {bulk : BulkConfig} {e : Endpoint Unit β}
    (h : outputOnly j oh bulk = .ok e) : e.FromFacade j :=
  FromFacade.of_new rfl rfl h

theorem FromFacade.output {j : Json} (hf : e.FromFacade j) (hw : e.style.wantsMultiple = true) :
    ∃ h, e.caller.output = some h := by
  obtain ⟨hi, ho, hnew, -, hout⟩ := hf
  rw [(Caller.new_handles hnew).2]
  exact Option.isSome_iff_exists.1 (hout.trans hw)

section Fits

variable (hc : e.style.check e.decl = .ok ())
include hc

theorem multipleShape_of_check (hw : e.style.wantsMultiple = true) :
    e.caller.multipleShape = .ok e.decl.answerShape := by
  have hany := (CallStyle.check_ok_iff.1 hc).trans hw
  rcases hr : e.caller.decl.returns with _ | r
  · rw [decl, hr] at hany; cases hany
  · rw [decl, hr] at hany
    have hm : r.multiple = true := hany
    simp [Caller.multipleShape, hr, hm, Declaration.answerShape, decl]

theorem singleShape_of_check (hw : e.style.wantsMultiple = false) {r : ReturnDescriptor}
    (hr : e.decl.returns = some r) : e.caller.singleShape = .ok e.decl.answerShape := by
  have hany := (CallStyle.check_ok_iff.1 hc).trans hw
  rw [hr] at hany
  have hm : r.multiple = false := hany
  have hr' : e.caller.decl.returns = some r := hr
  simp [Caller.singleShape, hm, Declaration.answerShape, decl, hr']

theorem bulkCall_errors {j : Json} (hf : e.FromFacade j) (svc : Service σ) (batch : List α) :
    ErrorsIn (fun ctx s err => e.caller.Fault svc ctx (e.bulkInput batch) s err)
      (e.bulkCall svc batch) := by
  unfold bulkCall
  cases hs : e.style with
  | inputOutput =>
    obtain ⟨h, hh⟩ := hf.output (by rw [hs]; rfl)
    have hin : e.bulkInput batch = some batch := by simp [bulkInput, hs, CallStyle.takesInput]
    rw [hin]
    exact (Caller.errorsIn_request fun req =>
      Caller.responseMultiple_errors (multipleShape_of_check hc (by rw [hs]; rfl)) hh).bind_pure _
  | input =>
    have hin : e.bulkInput batch = some batch := by simp [bulkInput, hs, CallStyle.takesInput]
    rw [hin]
    refine (Caller.errorsIn_request fun req => ?_).bind_pure fun _ => ([], true)
    split
    · rename_i hr
      obtain ⟨r, hr⟩ := Option.isSome_iff_exists.1 hr
      exact (Caller.responseWithState_errors
        (singleShape_of_check hc (by rw [hs]; rfl) hr)).bind_pure fun _ => ()
    · rename_i hr
      exact Caller.responseNone_errors (Option.not_isSome_iff_eq_none.1 hr)
  | output =>
    obtain ⟨h, hh⟩ := hf.output (by rw [hs]; rfl)
    have hin : e.bulkInput batch = none := by simp [bulkInput, hs, CallStyle.takesInput]
    rw [hin]
    exact (Caller.errorsIn_request fun req => Caller.responseMultiple_errors
      (multipleShape_of_check hc (by rw [hs]; rfl)) hh).bind_get_pure _
  | exec =>
    have hin : e.bulkInput batch = none := by simp [bulkInput, hs, CallStyle.takesInput]
    rw [hin]
    refine (Caller.errorsIn_request fun req => ?_).bind_pure fun more => ([], more)
    split
    · rename_i hr
      obtain ⟨r, hr⟩ := Option.isSome_iff_exists.1 hr
      exact Caller.responseWithState_errors (singleShape_of_check hc (by rw [hs]; rfl) hr)
    · rename_i hr
      exact (Caller.responseNone_errors (Option.not_isSome_iff_eq_none.1 hr)).bind_pure
        fun _ => false

end Fits

end Endpoint

theorem CallStyle.check_error {st : CallStyle} {d : Declaration} {err : Error}
    (h : st.check d = .error err) : ∃ msg, err = .unsupported msg := by
  unfold CallStyle.check at h
  dsimp only at h
  split at h
  · cases h
  · cases h
    exact ⟨_, rfl⟩

namespace Bulk.Run

variable {e : Endpoint α β} {r : Run α β}

def Built (e : Endpoint α β) (r : Run α β) : Prop :=
  (∃ ctx, new e (.inline ctx) = .ok r) ∨ (∃ cs, withContexts e cs = .ok r) ∨
    ∃ cs n, withThreads e cs n = .ok r

theorem new_ok {p : Placement} (h : new e p = .ok r) :
    e.style.check e.decl = .ok () ∧ r.endpoint = e := by
  unfold new at h
  cases hc : e.style.check e.decl with
  | error err => rw [hc] at h; cases h
  | ok u =>
    simp only [hc, bind, Except.bind, pure, Except.pure] at h
    split at h <;> cases h <;> exact ⟨rfl, rfl⟩

theorem new_of_check_error {err : Error} (hc : e.style.check e.decl = .error err)
    (p : Placement) : new e p = .error err := by
  unfold new
  rw [hc]
  rfl

theorem Built.exists_new (h : Built e r) : ∃ p, new e p = .ok r := by
  rcases h with ⟨ctx, h⟩ | ⟨cs, h⟩ | ⟨cs, n, h⟩
  · exact ⟨_, h⟩
  · unfold withContexts at h
    split at h
    · cases h
    · exact ⟨_, h⟩
  · unfold withThreads at h
    cases hp : poolContexts cs n e.style with
    | error err => rw [hp] at h; cases h
    | ok cs' => rw [hp] at h; exact ⟨_, h⟩

theorem withContexts_of_check_error {err : Error} (hc : e.style.check e.decl = .error err)
    {cs : List CallContext} (hne : cs ≠ []) : withContexts e cs = .error err := by
  unfold withContexts
  rw [if_neg (by simpa using hne)]
  exact new_of_check_error hc _

theorem withThreads_of_check_error {err : Error} (hc : e.style.check e.decl = .error err)
    {cs cs' : List CallContext} {n : Nat} (hp : poolContexts cs n e.style = .ok cs') :
    withThreads e cs n = .error err := by
  unfold withThreads
  rw [hp]
  exact new_of_check_error hc _

end Bulk.Run

namespace Endpoint

/-- A facade's bulk calls fail only building the request, in the service, or reading the answer. -/
theorem facade_bulk_calls_fail_only_in_request_or_answer {j : Json} {e : Endpoint α β}
    (hf : e.FromFacade j) :
    (∀ r, Bulk.Run.Built e r → r.endpoint = e ∧
      (e.style.wantsMultiple = true →
        e.caller.multipleShape = .ok e.decl.answerShape ∧ ∃ h, e.caller.outputHandle = .ok h) ∧
      (e.style.wantsMultiple = false → ∀ ret, e.decl.returns = some ret →
        e.caller.singleShape = .ok e.decl.answerShape) ∧
      ∀ (σ : Type) (svc : Service σ) (batch : List α),
        ErrorsIn (fun ctx s err => e.caller.Fault svc ctx (e.bulkInput batch) s err)
          (r.endpoint.bulkCall svc batch)) ∧
    ∀ err, e.style.check e.decl = .error err →
      (∃ msg, err = .unsupported msg) ∧ (∀ r, ¬ Bulk.Run.Built e r) ∧
      (∀ ctx, Bulk.Run.new e (.inline ctx) = .error err) ∧
      (∀ cs, cs ≠ [] → Bulk.Run.withContexts e cs = .error err) ∧
      ∀ cs n cs', Bulk.poolContexts cs n e.style = .ok cs' →
        Bulk.Run.withThreads e cs n = .error err := by
  refine ⟨fun r hr => ?_, fun err hc => ?_⟩
  · obtain ⟨p, hp⟩ := hr.exists_new
    obtain ⟨hc, rfl⟩ := Bulk.Run.new_ok hp
    refine ⟨rfl, fun hw => ⟨multipleShape_of_check hc hw, ?_⟩,
      fun hw _ hret => singleShape_of_check hc hw hret,
      fun _ svc batch => bulkCall_errors hc hf svc batch⟩
    obtain ⟨h, hh⟩ := hf.output hw
    exact ⟨h, Caller.outputHandle_eq_ok.2 hh⟩
  · refine ⟨CallStyle.check_error hc, fun r hr => ?_, fun ctx => Bulk.Run.new_of_check_error hc _,
      fun cs hne => Bulk.Run.withContexts_of_check_error hc hne,
      fun cs n cs' hp => Bulk.Run.withThreads_of_check_error hc hp⟩
    obtain ⟨p, hp⟩ := hr.exists_new
    rw [Bulk.Run.new_of_check_error hc p] at hp
    cases hp

theorem output_facade_bulk_calls :
    ∃ e : Endpoint Unit String,
      outputOnly (.obj [("endpoint", .str "/x.sjs"), ("return", .obj [("datatype",
        .str "jsonDocument"), ("multiple", .bool true), ("nullable", .bool true)])]) Handle.text {} =
        .ok e ∧
      e.FromFacade (.obj [("endpoint", .str "/x.sjs"), ("return", .obj [("datatype",
        .str "jsonDocument"), ("multiple", .bool true), ("nullable", .bool true)])]) ∧
      ((∀ r, Bulk.Run.Built e r → r.endpoint = e ∧
        (e.style.wantsMultiple = true →
          e.caller.multipleShape = .ok e.decl.answerShape ∧ ∃ h, e.caller.outputHandle = .ok h) ∧
        (e.style.wantsMultiple = false → ∀ ret, e.decl.returns = some ret →
          e.caller.singleShape = .ok e.decl.answerShape) ∧
        ∀ (σ : Type) (svc : Service σ) (batch : List Unit),
          ErrorsIn (fun ctx s err => e.caller.Fault svc ctx (e.bulkInput batch) s err)
            (r.endpoint.bulkCall svc batch)) ∧
      ∀ err, e.style.check e.decl = .error err →
        (∃ msg, err = .unsupported msg) ∧ (∀ r, ¬ Bulk.Run.Built e r) ∧
        (∀ ctx, Bulk.Run.new e (.inline ctx) = .error err) ∧
        (∀ cs, cs ≠ [] → Bulk.Run.withContexts e cs = .error err) ∧
        ∀ cs n cs', Bulk.poolContexts cs n e.style = .ok cs' →
          Bulk.Run.withThreads e cs n = .error err) := by
  have hmade : outputOnly (.obj [("endpoint", .str "/x.sjs"), ("return", .obj [("datatype",
      .str "jsonDocument"), ("multiple", .bool true), ("nullable", .bool true)])]) Handle.text {} =
      .ok _ := rfl
  exact ⟨_, hmade, outputOnly_fromFacade hmade,
    facade_bulk_calls_fail_only_in_request_or_answer (outputOnly_fromFacade hmade)⟩

/-- A pool over no contexts is refused for its contexts before the style check. -/
theorem pool_without_contexts_refused_before_style_check :
    ∃ e : Endpoint Unit String,
      outputOnly (.obj [("endpoint", .str "/x.sjs"), ("return", .obj [("datatype",
        .str "jsonDocument"), ("nullable", .bool true)])]) Handle.text {} = .ok e ∧
      e.style.check e.decl ≠ .ok () ∧
      Bulk.Run.withContexts e [] =
        .error (.configuration "bulk caller needs at least one call context") ∧
      ∀ msg, Bulk.Run.withContexts e [] ≠ .error (.unsupported msg) := by
  refine ⟨_, rfl, ?_, rfl, ?_⟩
  · simp only [ne_eq]
    intro h
    cases h
  · intro _ h
    cases h

end Endpoint
end EndpointCall
