import RedpandaOperator.Prog

/-!
Properties of every path a program can take, whatever the store answers. `Guards G Q R` says that
no call answered in `Q` comes before a call answered in `G`, and that a result in `R` is returned
only after one; with `G` empty it says that no such call is issued and no such result returned.
`exec` follows one path under any schedule, so the calls it records inherit the property; and a
store property kept by every call a program may issue, and by every action of the other parties,
holds after any run of it.
-/

namespace RedpandaOperator

/-- In the list, no entry in `Q` comes before an entry in `G`. -/
def Preceded {β : Type} (G Q : β → Prop) : List β → Prop
  | [] => True
  | x :: xs => ¬ Q x ∧ (G x ∨ Preceded G Q xs)

theorem Preceded.exists_before {β : Type} {G Q : β → Prop} {pre post : List β} {x : β}
    (h : Preceded G Q (pre ++ x :: post)) (hq : Q x) : ∃ y ∈ pre, G y := by
  induction pre with
  | nil => exact absurd hq h.1
  | cons z zs ih =>
    rcases h.2 with hz | hzs
    · exact ⟨z, List.mem_cons_self _ _, hz⟩
    · obtain ⟨y, hy, hg⟩ := ih hzs
      exact ⟨y, List.mem_cons_of_mem _ hy, hg⟩

theorem Preceded.forall_not {β : Type} {Q : β → Prop} {l : List β}
    (h : Preceded (fun _ => False) Q l) : ∀ y ∈ l, ¬ Q y := by
  induction l with
  | nil => simp
  | cons z zs ih =>
    simp only [List.mem_cons, forall_eq_or_imp]
    exact ⟨h.1, ih (h.2.resolve_left not_false)⟩

namespace Prog

/-- Along every path: no call answered in `Q` before a call answered in `G`, and a result in `R`
only after one. -/
def Guards {α : Type} (G Q : Call → Response → Prop) (R : α → Prop) : Prog α → Prop
  | .pure a => ¬ R a
  | .call c k => ∀ r, ¬ Q c r ∧ (G c r ∨ Guards G Q R (k r))
  | .event _ p => Guards G Q R p

/-- Every call the program may issue satisfies `P`. -/
def Calls {α : Type} (P : Call → Prop) (p : Prog α) : Prop :=
  p.Guards (fun _ _ => False) (fun c _ => ¬ P c) fun _ => False

variable {α β : Type} {G Q : Call → Response → Prop}

@[simp] theorem guards_pure (R : α → Prop) (a : α) : (Prog.pure a).Guards G Q R ↔ ¬ R a := .rfl

@[simp] theorem guards_call (R : α → Prop) (c : Call) (k : Response → Prog α) :
    (Prog.call c k).Guards G Q R ↔ ∀ r, ¬ Q c r ∧ (G c r ∨ (k r).Guards G Q R) := .rfl

@[simp] theorem guards_event (R : α → Prop) (e : Event) (p : Prog α) :
    (Prog.event e p).Guards G Q R ↔ p.Guards G Q R := .rfl

theorem Guards.bind {R : α → Prop} {R' : β → Prop} {p : Prog α} {f : α → Prog β}
    (hp : p.Guards G Q R) (hf : ∀ a, ¬ R a → (f a).Guards G Q R') : (p.bind f).Guards G Q R' := by
  induction p with
  | pure a => exact hf a hp
  | call c k ih => exact fun r => ⟨(hp r).1, (hp r).2.imp_right (ih r)⟩
  | event e p ih => exact ih hp

theorem Guards.mono {G' Q' : Call → Response → Prop} {R R' : α → Prop} {p : Prog α}
    (h : p.Guards G Q R) (hG : ∀ c r, G c r → G' c r) (hQ : ∀ c r, Q' c r → Q c r)
    (hR : ∀ a, R' a → R a) : p.Guards G' Q' R' := by
  induction p with
  | pure a => exact fun h' => h (hR a h')
  | call c k ih =>
    exact fun r => ⟨fun hq => (h r).1 (hQ c r hq), (h r).2.imp (hG c r) (ih r)⟩
  | event e p ih => exact ih h

theorem Calls.bind {P : Call → Prop} {p : Prog α} {f : α → Prog β} (hp : p.Calls P)
    (hf : ∀ a, (f a).Calls P) : (p.bind f).Calls P :=
  Guards.bind hp fun a _ => hf a

theorem Calls.mono {P P' : Call → Prop} {p : Prog α} (h : p.Calls P) (hP : ∀ c, P c → P' c) :
    p.Calls P' :=
  Guards.mono h (fun _ _ => id) (fun c _ hc hp => hc (hP c hp)) fun _ => id

theorem Calls.guards {P : Call → Prop} {R : α → Prop} {p : Prog α} (h : p.Calls P)
    (hQ : ∀ c r, Q c r → ¬ P c) (hR : ∀ a, ¬ R a) : p.Guards G Q R :=
  Guards.mono h (fun _ _ => False.elim) (fun c r hq hp => hQ c r hq hp) fun a ha => hR a ha

@[simp] theorem calls_pure (P : Call → Prop) (a : α) : (Prog.pure a).Calls P := not_false

@[simp] theorem calls_call (P : Call → Prop) (c : Call) (k : Response → Prog α) :
    (Prog.call c k).Calls P ↔ P c ∧ ∀ r, (k r).Calls P :=
  ⟨fun h => ⟨not_not.mp (h .ok).1, fun r => (h r).2.resolve_left not_false⟩,
    fun h r => ⟨not_not.mpr h.1, .inr (h.2 r)⟩⟩

@[simp] theorem calls_event (P : Call → Prop) (e : Event) (p : Prog α) :
    (Prog.event e p).Calls P ↔ p.Calls P := .rfl

/-- Every call the program may issue satisfies `P`, and every result it returns satisfies `S`. -/
def Yields {α : Type} (P : Call → Prop) (S : α → Prop) (p : Prog α) : Prop :=
  p.Guards (fun _ _ => False) (fun c _ => ¬ P c) fun a => ¬ S a

@[simp] theorem yields_pure (P : Call → Prop) (S : α → Prop) (a : α) :
    (Prog.pure a).Yields P S ↔ S a := not_not

@[simp] theorem yields_call (P : Call → Prop) (S : α → Prop) (c : Call) (k : Response → Prog α) :
    (Prog.call c k).Yields P S ↔ P c ∧ ∀ r, (k r).Yields P S :=
  ⟨fun h => ⟨not_not.mp (h .ok).1, fun r => (h r).2.resolve_left not_false⟩,
    fun h r => ⟨not_not.mpr h.1, .inr (h.2 r)⟩⟩

@[simp] theorem yields_event (P : Call → Prop) (S : α → Prop) (e : Event) (p : Prog α) :
    (Prog.event e p).Yields P S ↔ p.Yields P S := .rfl

theorem yields_pure_of {P : Call → Prop} {S : α → Prop} {a : α} (h : S a) :
    (Pure.pure a : Prog α).Yields P S :=
  not_not.mpr h

theorem yields_event_pure_of {P : Call → Prop} {S : α → Prop} {a : α} (e : Event) (h : S a) :
    (Prog.event e (Pure.pure a)).Yields P S :=
  not_not.mpr h

theorem Yields.bind {P : Call → Prop} {S : α → Prop} {S' : β → Prop} {p : Prog α}
    {f : α → Prog β} (hp : p.Yields P S) (hf : ∀ a, S a → (f a).Yields P S') :
    (p.bind f).Yields P S' :=
  Guards.bind hp fun a ha => hf a (not_not.mp ha)

theorem Yields.calls {P : Call → Prop} {S : α → Prop} {p : Prog α} (h : p.Yields P S) :
    p.Calls P :=
  Guards.mono h (fun _ _ => id) (fun _ _ => id) fun _ => False.elim

theorem Yields.bind_calls {P : Call → Prop} {S : α → Prop} {p : Prog α} {f : α → Prog β}
    (hp : p.Yields P S) (hf : ∀ a, S a → (f a).Calls P) : (p.bind f).Calls P :=
  Guards.bind hp fun a ha => hf a (not_not.mp ha)

theorem Calls.bind_yields {P : Call → Prop} {S : β → Prop} {p : Prog α} {f : α → Prog β}
    (hp : p.Calls P) (hf : ∀ a, (f a).Yields P S) : (p.bind f).Yields P S :=
  Guards.bind hp fun a _ => hf a

/-- Once a call in `K` is issued, no call in `Q` follows and the result lies in `R`. -/
def Seals {α : Type} (K Q : Call → Prop) (R : α → Prop) : Prog α → Prop
  | .pure _ => True
  | .call c k => ∀ r, (K c → (k r).Guards (fun _ _ => False) (fun c _ => Q c) fun a => ¬ R a) ∧
      Seals K Q R (k r)
  | .event _ p => Seals K Q R p

theorem Seals.bind {K Q : Call → Prop} {R : α → Prop} {R' : β → Prop} {p : Prog α}
    {f : α → Prog β} (hp : p.Seals K Q R)
    (hR : ∀ a, R a → (f a).Guards (fun _ _ => False) (fun c _ => Q c) fun b => ¬ R' b)
    (hf : ∀ a, (f a).Seals K Q R') : (p.bind f).Seals K Q R' := by
  induction p with
  | pure a => exact hf a
  | call c k ih =>
    exact fun r => ⟨fun hk => ((hp r).1 hk).bind fun a ha => hR a (not_not.mp ha), ih r (hp r).2⟩
  | event e p ih => exact ih hp

theorem Calls.guards_none {G : Call → Response → Prop} {Q : Call → Prop} {p : Prog α}
    (h : p.Calls fun c => ¬ Q c) : p.Guards G (fun c _ => Q c) fun _ => False :=
  Guards.mono h (fun _ _ => False.elim) (fun _ _ hq hn => hn hq) fun _ => id

theorem Calls.seals {K Q : Call → Prop} {R : α → Prop} {p : Prog α} (h : p.Calls fun c => ¬ K c) :
    p.Seals K Q R := by
  induction p with
  | pure a => trivial
  | call c k ih =>
    rw [calls_call] at h
    exact fun r => ⟨fun hk => absurd hk h.1, ih r (h.2 r)⟩
  | event e p ih => exact ih h

end Prog

section Exec

variable {α : Type} {G Q : Call → Response → Prop} {R : α → Prop}

theorem exec_call_calls (σ : Sched) (c : Call) (k : Response → Prog α) (i : Nat) (s : Store) :
    (exec σ (.call c k) i s).calls = if σ.stop = some i then [] else
      (c, (σ.answer i s c).2) :: (exec σ (k (σ.answer i s c).2) (i + 1) (σ.answer i s c).1).calls := by
  rw [exec_call]
  split <;> rfl

/-- The calls of a run keep the order a guarded program promises, and a result in `R` comes with
an earlier call in `G`. -/
theorem Prog.Guards.exec_preceded {p : Prog α} (h : p.Guards G Q R) (σ : Sched) (i : Nat) (s : Store) :
    Preceded (fun x => G x.1 x.2) (fun x => Q x.1 x.2) (exec σ p i s).calls ∧
      ∀ a, (exec σ p i s).result = some a → R a → ∃ x ∈ (exec σ p i s).calls, G x.1 x.2 := by
  induction p generalizing i s with
  | pure a => exact ⟨trivial, fun b hb hr => absurd (Option.some.inj hb ▸ hr) h⟩
  | event e p ih => exact ih h i s
  | call c k ih =>
    rw [exec_call]
    split
    · exact ⟨trivial, fun _ hb => by cases hb⟩
    · obtain ⟨hq, hg⟩ := h (σ.answer i s c).2
      rcases hg with hg | hk
      · exact ⟨⟨hq, .inl hg⟩, fun _ _ _ => ⟨_, List.mem_cons_self _ _, hg⟩⟩
      · obtain ⟨hpre, hres⟩ := ih _ hk (i + 1) (σ.answer i s c).1
        exact ⟨⟨hq, .inr hpre⟩, fun a ha hr =>
          (hres a ha hr).imp fun x hx => ⟨List.mem_cons_of_mem _ hx.1, hx.2⟩⟩

theorem Prog.Guards.exec_before {p : Prog α} (h : p.Guards G Q R) {σ : Sched} {i : Nat} {s : Store}
    {pre post : List (Call × Response)} {x : Call × Response}
    (hl : (exec σ p i s).calls = pre ++ x :: post) (hq : Q x.1 x.2) : ∃ y ∈ pre, G y.1 y.2 := by
  have hp := (h.exec_preceded σ i s).1
  rw [hl] at hp
  exact hp.exists_before hq

theorem Prog.Calls.exec_calls {P : Call → Prop} {p : Prog α} (h : p.Calls P) (σ : Sched) (i : Nat)
    (s : Store) : ∀ x ∈ (exec σ p i s).calls, P x.1 := by
  intro x hx
  by_contra hp
  obtain ⟨pre, post, hl⟩ := List.append_of_mem hx
  obtain ⟨_, _, hg⟩ := h.exec_before hl hp
  exact hg

theorem Prog.Calls.runs {P : Call → Prop} {p : Prog α} {l : List (Call × Response)} {a : α}
    (h : p.Calls P) (hr : p.Runs l a) : ∀ x ∈ l, P x.1 := by
  induction hr with
  | pure => exact fun _ hx => absurd hx (List.not_mem_nil _)
  | call _ ih =>
    rw [calls_call] at h
    intro x hx
    rcases List.mem_cons.mp hx with rfl | hx
    · exact h.1
    · exact ih (h.2 _) x hx
  | event _ ih => exact ih h

theorem Prog.Seals.exec_calls {K Q : Call → Prop} {p : Prog α} (h : p.Seals K Q R) (σ : Sched)
    (i : Nat) (s : Store) {pre post : List (Call × Response)} {x : Call × Response}
    (hl : (exec σ p i s).calls = pre ++ x :: post) (hk : K x.1) : ∀ y ∈ post, ¬ Q y.1 := by
  induction p generalizing i s pre with
  | pure a => simp at hl
  | event e p ih => exact ih h i s hl
  | call c k ih =>
    rw [exec_call_calls] at hl
    split at hl
    · simp at hl
    · cases pre with
      | nil =>
        obtain ⟨rfl, rfl⟩ := List.cons.inj hl
        exact ((((h _).1 hk).exec_preceded σ _ _).1).forall_not
      | cons z pre => exact ih _ (h _).2 _ _ (List.cons.inj hl).2

/-- A program that seals `K` against itself issues at most one call in `K`. -/
theorem Prog.Seals.exec_at_most_one {K : Call → Prop} {p : Prog α} (h : p.Seals K K R) {σ : Sched}
    {i : Nat} {s : Store} {pre post : List (Call × Response)} {x : Call × Response}
    (hl : (exec σ p i s).calls = pre ++ x :: post) (hk : K x.1) : ∀ y ∈ pre ++ post, ¬ K y.1 := by
  intro y hy hky
  rcases List.mem_append.mp hy with hpre | hpost
  · obtain ⟨p₁, p₂, rfl⟩ := List.append_of_mem hpre
    have hl' : (exec σ p i s).calls = p₁ ++ y :: (p₂ ++ x :: post) := hl.trans (by simp)
    exact h.exec_calls σ i s hl' hky x (by simp) hk
  · exact h.exec_calls σ i s hl hk y hpost hky

theorem exec_call_store (σ : Sched) (c : Call) (k : Response → Prog α) (i : Nat) (s : Store) :
    (exec σ (.call c k) i s).store = if σ.stop = some i then s else
      (exec σ (k (σ.answer i s c).2) (i + 1) (σ.answer i s c).1).store := by
  rw [exec_call]
  split <;> rfl

theorem EnvAction.foldl_apply {I : Store → Prop} {as : List EnvAction}
    (he : ∀ a ∈ as, ∀ s, I s → I (a.apply s)) {s : Store} (hs : I s) :
    I (as.foldl EnvAction.apply s) := by
  induction as generalizing s with
  | nil => exact hs
  | cons a as ih =>
    exact ih (fun b hb => he b (List.mem_cons_of_mem _ hb)) (he a (List.mem_cons_self _ _) s hs)

/-- A store property kept by every call a run issued, and by the actions of the other parties from
its first call on, holds after the run. -/
theorem exec_store_of_calls {P : Call → Prop} {I : Store → Prop} (σ : Sched) (p : Prog α) (i : Nat)
    {s : Store} (hc : ∀ c s, P c → I s → I (s.perform c).1)
    (he : ∀ j, i ≤ j → ∀ a ∈ σ.before j, ∀ s, I s → I (a.apply s))
    (hp : ∀ x ∈ (exec σ p i s).calls, P x.1) (hs : I s) : I (exec σ p i s).store := by
  induction p generalizing i s with
  | pure a => exact hs
  | event e p ih => exact ih i he hp hs
  | call c k ih =>
    rw [exec_call]
    rw [exec_call_calls] at hp
    split
    · exact hs
    · rw [if_neg ‹_›] at hp
      refine ih _ (i + 1) (fun j hj => he j (by omega)) (fun x hx => hp x (List.mem_cons_of_mem _ hx)) ?_
      have hb := EnvAction.foldl_apply (he i le_rfl) hs
      unfold Sched.answer
      split
      · exact hb
      · exact hc c _ (hp _ (List.mem_cons_self _ _)) hb

theorem Prog.Calls.exec_store {P : Call → Prop} {I : Store → Prop} {p : Prog α} (h : p.Calls P)
    (hc : ∀ c s, P c → I s → I (s.perform c).1) (he : ∀ (a : EnvAction) s, I s → I (a.apply s))
    (σ : Sched) (i : Nat) {s : Store} (hs : I s) : I (exec σ p i s).store :=
  exec_store_of_calls σ p i hc (fun _ _ a _ => he a) (h.exec_calls σ i s) hs

theorem Sched.answer_eq (σ : Sched) (i : Nat) (s : Store) (c : Call) :
    (∃ reason, σ.answer i s c =
      ((σ.before i).foldl EnvAction.apply s, .error (.internalError reason))) ∨
    σ.answer i s c = ((σ.before i).foldl EnvAction.apply s).perform c := by
  unfold Sched.answer
  split
  · exact .inl ⟨_, rfl⟩
  · exact .inr rfl

/-- Each answer an invocation gets is a fault, or the answer of a store that an invariant kept by
every call and every action of the other parties holds of. -/
theorem exec_answers {I : Store → Prop} (hc : ∀ c s, I s → I (s.perform c).1)
    (he : ∀ (a : EnvAction) s, I s → I (a.apply s)) (σ : Sched) (p : Prog α) (i : Nat) {s : Store}
    (hs : I s) : ∀ x ∈ (exec σ p i s).calls,
      (∃ reason, x.2 = .error (.internalError reason)) ∨ ∃ s', I s' ∧ x.2 = (s'.perform x.1).2 := by
  induction p generalizing i s with
  | pure a => simp
  | event e p ih => exact ih i hs
  | call c k ih =>
    rw [exec_call_calls]
    split
    · simp
    · have henv := @EnvAction.foldl_apply I (σ.before i) (fun a _ => he a) s hs
      have hans : I (σ.answer i s c).1 ∧ ((∃ reason, (σ.answer i s c).2 = .error (.internalError reason)) ∨
          ∃ s', I s' ∧ (σ.answer i s c).2 = (s'.perform c).2) := by
        rcases Sched.answer_eq σ i s c with ⟨reason, h⟩ | h <;> rw [h]
        · exact ⟨henv, .inl ⟨reason, rfl⟩⟩
        · exact ⟨hc c _ henv, .inr ⟨_, henv, rfl⟩⟩
      intro x hx
      rcases List.mem_cons.mp hx with rfl | hx
      · exact hans.2
      · exact ih _ (i + 1) hans.1 x hx

end Exec

end RedpandaOperator
