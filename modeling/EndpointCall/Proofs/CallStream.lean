import EndpointCall.Proofs.CallRequest
/-! Multiple-valued calls, decoded at once or as a stream. -/
namespace EndpointCall

variable {α β σ : Type}

def FirstFault (items : List (Except Error β)) (i : Nat) (e : Error) : Prop :=
  (∀ j < i, ∃ o, items[j]? = some (.ok o)) ∧ items[i]? = some (.error e)

theorem firstFault_cons_error {items : List (Except Error β)} {e e' : Error} {i : Nat} :
    FirstFault (.error e' :: items) i e ↔ i = 0 ∧ e' = e := by
  constructor
  · rintro ⟨hbefore, hat⟩
    cases i with
    | zero => exact ⟨rfl, by simpa using hat⟩
    | succ k =>
      obtain ⟨o, ho⟩ := hbefore 0 (Nat.succ_pos k)
      cases ho
  · rintro ⟨rfl, rfl⟩
    exact ⟨fun j hj => absurd hj (Nat.not_lt_zero j), rfl⟩

theorem firstFault_cons_ok {items : List (Except Error β)} {e : Error} {o : β} {i : Nat} :
    FirstFault (.ok o :: items) i e ↔ ∃ k, i = k + 1 ∧ FirstFault items k e := by
  constructor
  · rintro ⟨hbefore, hat⟩
    cases i with
    | zero => cases hat
    | succ k =>
      refine ⟨k, rfl, fun j hj => ?_, hat⟩
      exact hbefore (j + 1) (Nat.succ_lt_succ hj)
  · rintro ⟨k, rfl, hbefore, hat⟩
    refine ⟨fun j hj => ?_, hat⟩
    cases j with
    | zero => exact ⟨o, rfl⟩
    | succ j => exact hbefore j (Nat.lt_of_succ_lt_succ hj)

theorem mapM_eq_error_iff {γ : Type} (f : γ → Except Error β) (l : List γ) (e : Error) :
    l.mapM f = .error e ↔ ∃ i, FirstFault (l.map f) i e := by
  induction l with
  | nil =>
    simp only [List.mapM_nil, List.map_nil]
    constructor
    · intro h
      cases h
    · rintro ⟨i, -, hat⟩
      cases hat
  | cons x xs ih =>
    simp only [List.mapM_cons, List.map_cons]
    cases hx : f x with
    | error e' =>
      simp only [firstFault_cons_error, exists_eq_left]
      exact ⟨fun h => (by cases h; rfl), fun h => (by rw [h]; rfl)⟩
    | ok o =>
      simp only [firstFault_cons_ok]
      rw [exists_comm]
      simp only [exists_eq_left]
      rw [← ih]
      cases xs.mapM f <;> simp [bind, Except.bind, pure, Except.pure]

theorem map_eq_of_mapM_ok {γ : Type} {f : γ → Except Error β} {l : List γ} {outs : List β}
    (h : l.mapM f = .ok outs) : l.map f = outs.map .ok := by
  have hr := (Except.mapM_ok_iff f l outs).1 h
  clear h
  induction hr with
  | nil => rfl
  | cons hx _ ih => simp [hx, ih]

namespace Caller

def outputs (c : Caller α β) (h : Handle β) (r : ReturnDescriptor) (resp : Response) :
    List (Except Error β) :=
  ((documents resp).drop (if c.decl.endpointState.isSome then 1 else 0)).map
    fun d => h.decode d.bytes r.format

/-- How a multiple-valued call fails before any output is decoded. -/
inductive FailsEarly (c : Caller α β) (svc : Service σ) (req : Request) (s : σ) :
    Error → σ → Prop
  | shape {e : Error} : c.multipleShape = .error e → FailsEarly c svc req s e s
  | handle {shape : ResponseShape} {e : Error} : c.multipleShape = .ok shape →
      c.outputHandle = .error e → FailsEarly c svc req s e s
  | transport {shape : ResponseShape} {h : Handle β} {e : Error} {s₁ : σ} :
      c.multipleShape = .ok shape → c.outputHandle = .ok h →
      (svc req shape).run s = (.error e, s₁) → FailsEarly c svc req s e s₁
  | conform {shape : ResponseShape} {h : Handle β} {r : Response} {e : Error} {s₁ : σ} :
      c.multipleShape = .ok shape → c.outputHandle = .ok h →
      (svc req shape).run s = (.ok r, s₁) → r.conform shape = .error e →
      FailsEarly c svc req s e s₁

theorem send_run (svc : Service σ) (req : Request) (shape : ResponseShape) (s : σ) :
    (send svc req shape).run s =
      (((svc req shape).run s).1 >>= (·.conform shape), ((svc req shape).run s).2) := rfl

variable {c : Caller α β} {svc : Service σ} {req : Request} {ctx : CallContext} {s : σ}

theorem responseMultiple_run_early {e : Error} {s₁ : σ} (hf : c.FailsEarly svc req s e s₁) :
    ((c.responseMultiple svc req).run.run ctx).run s = ((.error e, ctx), s₁) := by
  unfold responseMultiple
  simp only [callM_run_bind, callM_run_lift, sendOn_run, callM_run_modify, callM_run_pure]
  cases hf with
  | shape hs => simp only [hs]
  | handle hs hh => simp only [hs, hh]
  | transport hs hh hsvc => simp only [hs, hh, send_run, hsvc]; rfl
  | conform hs hh hsvc hc => simp only [hs, hh, send_run, hsvc, bind, Except.bind, hc]

theorem responseStream_run_early {e : Error} {s₁ : σ} (hf : c.FailsEarly svc req s e s₁) :
    ((c.responseStream svc req).run.run ctx).run s = ((.error e, ctx), s₁) := by
  unfold responseStream
  simp only [callM_run_bind, callM_run_lift, sendOn_run, callM_run_modify, callM_run_pure]
  cases hf with
  | shape hs => simp only [hs]
  | handle hs hh => simp only [hs, hh]
  | transport hs hh hsvc => simp only [hs, hh, send_run, hsvc]; rfl
  | conform hs hh hsvc hc => simp only [hs, hh, send_run, hsvc, bind, Except.bind, hc]

section Sent

variable {shape : ResponseShape} {h : Handle β} {resp : Response} {s₁ : σ}
  (hs : c.multipleShape = .ok shape) (hh : c.outputHandle = .ok h)
  (hsend : (send svc req shape).run s = (.ok resp, s₁))
include hs hh hsend

theorem responseMultiple_run_sent :
    ((c.responseMultiple svc req).run.run ctx).run s =
      match ((c.splitState (documents resp)).2.mapM fun d =>
          h.decode d.bytes (shape.format?.getD .unknown)) with
      | .ok outs => ((.ok outs, c.withState ctx (c.splitState (documents resp)).1), s₁)
      | .error e => ((.error e, ctx), s₁) := by
  unfold responseMultiple
  simp only [callM_run_bind, callM_run_lift, sendOn_run, callM_run_modify, callM_run_pure, hs, hh,
    hsend]
  cases (c.splitState (documents resp)).2.mapM fun d =>
    h.decode d.bytes (shape.format?.getD .unknown) <;> rfl

theorem responseStream_run_sent :
    ((c.responseStream svc req).run.run ctx).run s =
      ((.ok ⟨(c.splitState (documents resp)).2, h, shape.format?.getD .unknown⟩,
        c.withState ctx (c.splitState (documents resp)).1), s₁) := by
  unfold responseStream
  simp only [callM_run_bind, callM_run_lift, sendOn_run, callM_run_modify, callM_run_pure, hs, hh,
    hsend]

end Sent

theorem multipleShape_eq_ok {shape : ResponseShape} :
    c.multipleShape = .ok shape ↔
      ∃ r, c.decl.returns = some r ∧ r.multiple = true ∧ shape = .multiple r.nullable r.format := by
  unfold multipleShape
  rcases hr : c.decl.returns with _ | r
  · simp
  · by_cases hm : r.multiple
    · simp only [hm, ↓reduceIte, Except.ok.injEq, Option.some.injEq, exists_eq_left', true_and]
      exact eq_comm
    · simp [hm]

theorem outputHandle_eq_ok {h : Handle β} : c.outputHandle = .ok h ↔ c.output = some h := by
  unfold outputHandle
  rcases c.output with _ | h' <;> simp

theorem failsEarly_or_answered (c : Caller α β) (svc : Service σ) (req : Request) (s : σ) :
    (∃ e s₁, c.FailsEarly svc req s e s₁) ∨
      ∃ h r resp s₁, c.output = some h ∧ c.decl.returns = some r ∧ r.multiple = true ∧
        (send svc req (.multiple r.nullable r.format)).run s = (.ok resp, s₁) := by
  rcases hs : c.multipleShape with e | shape
  · exact .inl ⟨e, s, .shape hs⟩
  rcases hh : c.outputHandle with e | h
  · exact .inl ⟨e, s, .handle hs hh⟩
  obtain ⟨r, hr, hm, rfl⟩ := multipleShape_eq_ok.1 hs
  rcases hsvc : (svc req (.multiple r.nullable r.format)).run s with ⟨a | a, s₁⟩
  · exact .inl ⟨a, s₁, .transport hs hh hsvc⟩
  rcases hc : a.conform (.multiple r.nullable r.format) with e | resp
  · exact .inl ⟨e, s₁, .conform hs hh hsvc hc⟩
  · refine .inr ⟨h, r, resp, s₁, outputHandle_eq_ok.1 hh, hr, hm, ?_⟩
    rw [send_run, hsvc]
    exact congrArg (·, s₁) hc

theorem decoded_eq_outputs (h : Handle β) (r : ReturnDescriptor) (resp : Response) :
    (c.splitState (documents resp)).2.map (fun d => h.decode d.bytes r.format) =
      c.outputs h r resp := by
  rw [splitState_snd]
  rfl

section Answered

variable {h : Handle β} {r : ReturnDescriptor} {resp : Response} {s₁ : σ}
  (hh : c.output = some h) (hr : c.decl.returns = some r) (hm : r.multiple = true)
  (hsend : (send svc req (.multiple r.nullable r.format)).run s = (.ok resp, s₁))
include hh hr hm hsend

theorem responseMultiple_run_answered (ctx : CallContext) :
    ((c.responseMultiple svc req).run.run ctx).run s =
      match (c.splitState (documents resp)).2.mapM fun d => h.decode d.bytes r.format with
      | .ok outs => ((.ok outs, c.withState ctx (c.splitState (documents resp)).1), s₁)
      | .error e => ((.error e, ctx), s₁) :=
  responseMultiple_run_sent (multipleShape_eq_ok.2 ⟨r, hr, hm, rfl⟩) (outputHandle_eq_ok.2 hh) hsend

theorem responseStream_run_answered (ctx : CallContext) :
    ∃ st, ((c.responseStream svc req).run.run ctx).run s =
      ((.ok st, c.withState ctx (c.splitState (documents resp)).1), s₁) ∧
      st.items = c.outputs h r resp ∧
      c.Leaves ctx (c.withState ctx (c.splitState (documents resp)).1) resp := by
  refine ⟨_, responseStream_run_sent (multipleShape_eq_ok.2 ⟨r, hr, hm, rfl⟩)
    (outputHandle_eq_ok.2 hh) hsend, ?_, ?_⟩
  · simp only [OutputStream.items, outputs, splitState_snd]
    rfl
  · exact leaves_withState c ctx resp fun hst => by rw [splitState_fst, if_pos hst]

theorem collected_fails_at_fault {i : Nat} {e : Error}
    (hfault : FirstFault (c.outputs h r resp) i e) :
    ((c.responseMultiple svc req).run.run ctx).run s = ((.error e, ctx), s₁) ∧
      ∃ st ctx₂, ((c.responseStream svc req).run.run ctx).run s = ((.ok st, ctx₂), s₁) ∧
        c.Leaves ctx ctx₂ resp ∧ st.items = c.outputs h r resp := by
  have hdec : ((c.splitState (documents resp)).2.mapM fun d => h.decode d.bytes r.format) =
      .error e := (mapM_eq_error_iff _ _ e).2 ⟨i, by rwa [decoded_eq_outputs]⟩
  obtain ⟨st, hst, hitems, hleaves⟩ := responseStream_run_answered hh hr hm hsend ctx
  refine ⟨?_, st, _, hst, hleaves, hitems⟩
  rw [responseMultiple_run_answered hh hr hm hsend, hdec]

end Answered

theorem stream_of_collected_ok {outs : List β} {ctx₁ : CallContext} {s₁ : σ}
    (hrun : ((c.responseMultiple svc req).run.run ctx).run s = ((.ok outs, ctx₁), s₁)) :
    ∃ st, ((c.responseStream svc req).run.run ctx).run s = ((.ok st, ctx₁), s₁) ∧
      st.items = outs.map .ok := by
  rcases failsEarly_or_answered c svc req s with ⟨e, s', hf⟩ | ⟨h, r, resp, s', hh, hr, hm, hsend⟩
  · rw [responseMultiple_run_early hf] at hrun
    cases hrun
  · rw [responseMultiple_run_answered hh hr hm hsend] at hrun
    obtain ⟨st, hst, hitems, -⟩ := responseStream_run_answered hh hr hm hsend ctx
    cases hdec : (c.splitState (documents resp)).2.mapM fun d => h.decode d.bytes r.format with
    | error e => rw [hdec] at hrun; cases hrun
    | ok outs' =>
      rw [hdec] at hrun
      cases hrun
      refine ⟨st, hst, ?_⟩
      rw [hitems, ← decoded_eq_outputs, map_eq_of_mapM_ok hdec]

theorem collected_error_cases {e : Error} {ctx₁ : CallContext} {s₁ : σ}
    (hrun : ((c.responseMultiple svc req).run.run ctx).run s = ((.error e, ctx₁), s₁)) :
    c.FailsEarly svc req s e s₁ ∨
      ∃ h r resp i, c.output = some h ∧ c.decl.returns = some r ∧ r.multiple = true ∧
        (send svc req (.multiple r.nullable r.format)).run s = (.ok resp, s₁) ∧
        FirstFault (c.outputs h r resp) i e := by
  rcases failsEarly_or_answered c svc req s with ⟨e', s', hf⟩ | ⟨h, r, resp, s', hh, hr, hm, hsend⟩
  · rw [responseMultiple_run_early hf] at hrun
    cases hrun
    exact .inl hf
  · rw [responseMultiple_run_answered hh hr hm hsend] at hrun
    cases hdec : (c.splitState (documents resp)).2.mapM fun d => h.decode d.bytes r.format with
    | ok outs => rw [hdec] at hrun; cases hrun
    | error e' =>
      rw [hdec] at hrun
      cases hrun
      obtain ⟨i, hi⟩ := (mapM_eq_error_iff _ _ _).1 hdec
      exact .inr ⟨h, r, resp, i, hh, hr, hm, hsend, by rwa [← decoded_eq_outputs]⟩

/-- The streamed and the collected multiple-valued call agree. -/
theorem stream_agrees_with_collected (c : Caller α β) (svc : Service σ) (req : Request)
    (ctx : CallContext) (s : σ) :
    (∀ outs ctx₁ s₁, ((c.responseMultiple svc req).run.run ctx).run s = ((.ok outs, ctx₁), s₁) →
      ∃ st, ((c.responseStream svc req).run.run ctx).run s = ((.ok st, ctx₁), s₁) ∧
        st.items = outs.map .ok) ∧
    (∀ h r resp s₁ i e, c.output = some h → c.decl.returns = some r → r.multiple = true →
      (send svc req (.multiple r.nullable r.format)).run s = (.ok resp, s₁) →
      FirstFault (c.outputs h r resp) i e →
      ((c.responseMultiple svc req).run.run ctx).run s = ((.error e, ctx), s₁) ∧
      ∃ st ctx₂, ((c.responseStream svc req).run.run ctx).run s = ((.ok st, ctx₂), s₁) ∧
        c.Leaves ctx ctx₂ resp ∧ st.items = c.outputs h r resp) ∧
    (∀ e s₁, c.FailsEarly svc req s e s₁ →
      ((c.responseMultiple svc req).run.run ctx).run s = ((.error e, ctx), s₁) ∧
      ((c.responseStream svc req).run.run ctx).run s = ((.error e, ctx), s₁)) ∧
    ∀ e ctx₁ s₁, ((c.responseMultiple svc req).run.run ctx).run s = ((.error e, ctx₁), s₁) →
      c.FailsEarly svc req s e s₁ ∨
        ∃ h r resp i, c.output = some h ∧ c.decl.returns = some r ∧ r.multiple = true ∧
          (send svc req (.multiple r.nullable r.format)).run s = (.ok resp, s₁) ∧
          FirstFault (c.outputs h r resp) i e :=
  ⟨fun _ _ _ hrun => stream_of_collected_ok hrun,
    fun _ _ _ _ _ _ hh hr hm hsend hfault => collected_fails_at_fault hh hr hm hsend hfault,
    fun _ _ hf => ⟨responseMultiple_run_early hf, responseStream_run_early hf⟩,
    fun _ _ _ hrun => collected_error_cases hrun⟩

theorem stream_yields_decode_fault :
    ∃ c : Caller Unit String, Caller.new (.obj [("endpoint", .str "/rows.sjs"),
        ("params", .arr [.obj [("name", .str "endpointState"), ("datatype", .str "jsonDocument"),
          ("multiple", .bool false), ("nullable", .bool true)]]),
        ("return", .obj [("datatype", .str "jsonDocument"), ("multiple", .bool true),
          ("nullable", .bool true)])]) none (some Handle.text) = .ok c ∧
      FirstFault (c.outputs Handle.text ⟨.jsonDocument, true, true⟩
          (.multiple [⟨.json, [123, 125]⟩, ⟨.json, [120]⟩, ⟨.json, [255]⟩])) 1
        (.content "JSON content is not valid UTF-8: invalid utf-8 sequence of 1 bytes from index 0") ∧
      ((c.responseMultiple (fun _ _ => pure (.ok (.multiple [⟨.json, [123, 125]⟩,
          ⟨.json, [120]⟩, ⟨.json, [255]⟩]))) { endpoint := "/rows.sjs", valuesKind := .none }
          ).run.run {}).run () = ((.error (.content
            "JSON content is not valid UTF-8: invalid utf-8 sequence of 1 bytes from index 0"),
          {}), ()) ∧
      ∃ st ctx₂, ((c.responseStream (fun _ _ => pure (.ok (.multiple [⟨.json, [123, 125]⟩,
          ⟨.json, [120]⟩, ⟨.json, [255]⟩]))) { endpoint := "/rows.sjs", valuesKind := .none }
          ).run.run {}).run () = ((.ok st, ctx₂), ()) ∧
        c.Leaves {} ctx₂ (.multiple [⟨.json, [123, 125]⟩, ⟨.json, [120]⟩, ⟨.json, [255]⟩]) ∧
        st.items = c.outputs Handle.text ⟨.jsonDocument, true, true⟩
          (.multiple [⟨.json, [123, 125]⟩, ⟨.json, [120]⟩, ⟨.json, [255]⟩]) := by
  refine ⟨?c, ?new, ?fault, (stream_agrees_with_collected ?c _ _ {} ()).2.1 Handle.text
    ⟨.jsonDocument, true, true⟩ _ () 1 _ ?output ?returns rfl ?sent ?fault⟩
  case new => rfl
  case output => rfl
  case returns => rfl
  case sent => rfl
  case fault =>
    refine ⟨fun j hj => ⟨"x", ?_⟩, ?_⟩
    · rw [Nat.lt_one_iff.1 hj]
      simp only [outputs, documents, Option.isSome_some, ↓reduceIte, List.drop_succ_cons,
        List.drop_zero, List.map_cons, List.getElem?_cons_zero, Handle.text, Utf8.decode,
        Utf8.pieces, Utf8.width]
      rfl
    · simp only [outputs, documents, Option.isSome_some, ↓reduceIte, List.drop_succ_cons,
        List.drop_zero, List.map_cons, List.getElem?_cons_zero, List.getElem?_cons_succ,
        Handle.text, Utf8.decode, Utf8.pieces, Utf8.width, Utf8.Fault.message, Format.display]
      rfl

end Caller
end EndpointCall
