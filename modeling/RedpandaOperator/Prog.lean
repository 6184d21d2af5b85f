import RedpandaOperator.Store

/-!
Controller code as programs over the client: a program returns, records an event and goes on, or
makes a store call and continues with the answer. `exec` runs a program against the store under a
schedule that says which calls fail without effect, what other parties write just before each
call, and before which call the invocation stops. The calls it issued, with their answers, and the
events it recorded come out with the final store. The client's reads decode the answer into the
Go type they fill, its writes return the error (`none` for nil), and its `Update` of a HelmRelease
decodes the stored object back. What is proved of every run of a program (`Prog.Runs`), for every
choice of answers, holds of every invocation that returns, under any schedule (`exec_runs`).
-/

namespace RedpandaOperator

inductive Prog (α : Type) where
  | pure (a : α)
  | call (c : Call) (next : Response → Prog α)
  | event (e : Event) (next : Prog α)

namespace Prog

def bind {α β : Type} : Prog α → (α → Prog β) → Prog β
  | .pure a, f => f a
  | .call c k, f => .call c fun r => bind (k r) f
  | .event e p, f => .event e (bind p f)

instance : Monad Prog where
  pure := .pure
  bind := bind

@[simp] theorem pure_eq {α : Type} (a : α) : (Pure.pure a : Prog α) = .pure a := rfl

@[simp] theorem bind_eq {α β : Type} (p : Prog α) (f : α → Prog β) : p >>= f = p.bind f := rfl

@[simp] theorem pure_bind {α β : Type} (a : α) (f : α → Prog β) : (Prog.pure a).bind f = f a := rfl

@[simp] theorem call_bind {α β : Type} (c : Call) (k : Response → Prog α) (f : α → Prog β) :
    (Prog.call c k).bind f = .call c fun r => (k r).bind f := rfl

@[simp] theorem event_bind {α β : Type} (e : Event) (p : Prog α) (f : α → Prog β) :
    (Prog.event e p).bind f = .event e (p.bind f) := rfl

theorem bind_assoc {α β γ : Type} (p : Prog α) (f : α → Prog β) (g : β → Prog γ) :
    (p.bind f).bind g = p.bind fun a => (f a).bind g := by
  induction p with
  | pure a => rfl
  | call c k ih => simp only [call_bind, ih]
  | event e p ih => simp only [event_bind, ih]

end Prog

/-- Which calls of one invocation fail with an internal error and no effect, what other parties
write just before each call, and before which call the invocation stops. Calls are numbered from
zero in the order they are issued. -/
structure Sched where
  fault : Nat → Option String := fun _ => none
  before : Nat → List EnvAction := fun _ => []
  stop : Option Nat := none

/-- A run of a program: the store after it, the calls it issued with the answers, the events it
recorded, and its result unless it stopped. -/
structure Outcome (α : Type) where
  store : Store
  calls : List (Call × Response)
  events : List Event
  result : Option α

/-- The store as call `i` finds it, after the writes of other parties scheduled before it, and
the answer the call gets there. -/
def Sched.answer (σ : Sched) (i : Nat) (s : Store) (c : Call) : Store × Response :=
  let s := (σ.before i).foldl EnvAction.apply s
  match σ.fault i with
  | some reason => (s, Response.error (.internalError reason))
  | none => s.perform c

def exec {α : Type} (σ : Sched) : Prog α → Nat → Store → Outcome α
  | .pure a, _, s => ⟨s, [], [], some a⟩
  | .event e p, i, s =>
    let o := exec σ p i s
    { o with events := e :: o.events }
  | .call c k, i, s =>
    if σ.stop = some i then ⟨s, [], [], none⟩ else
    let sr := σ.answer i s c
    let o := exec σ (k sr.2) (i + 1) sr.1
    { o with calls := (c, sr.2) :: o.calls }

/-- Continue an outcome with the rest of the program, the calls numbered on from `i`. -/
def Outcome.andThen {α β : Type} (o : Outcome α) (i : Nat) (g : α → Nat → Store → Outcome β) :
    Outcome β :=
  match o.result with
  | none => ⟨o.store, o.calls, o.events, none⟩
  | some a =>
    let o' := g a (i + o.calls.length) o.store
    ⟨o'.store, o.calls ++ o'.calls, o.events ++ o'.events, o'.result⟩

section Exec

variable {α β : Type} (σ : Sched)

@[simp] theorem exec_pure (a : α) (i : Nat) (s : Store) :
    exec σ (.pure a) i s = ⟨s, [], [], some a⟩ := rfl

@[simp] theorem exec_event (e : Event) (p : Prog α) (i : Nat) (s : Store) :
    exec σ (.event e p) i s = { exec σ p i s with events := e :: (exec σ p i s).events } := rfl

theorem exec_call (c : Call) (k : Response → Prog α) (i : Nat) (s : Store) :
    exec σ (.call c k) i s =
      if σ.stop = some i then ⟨s, [], [], none⟩ else
        let sr := σ.answer i s c
        let o := exec σ (k sr.2) (i + 1) sr.1
        { o with calls := (c, sr.2) :: o.calls } := by
  simp only [exec]

theorem exec_bind (p : Prog α) (f : α → Prog β) (i : Nat) (s : Store) :
    exec σ (p.bind f) i s = (exec σ p i s).andThen i fun a => exec σ (f a) := by
  induction p generalizing i s with
  | pure a => simp [Outcome.andThen]
  | event e p ih =>
    simp only [Prog.event_bind, exec_event, ih, Outcome.andThen]
    split <;> simp_all
  | call c k ih =>
    rw [Prog.call_bind, exec_call, exec_call]
    split
    · rfl
    · simp only [ih, Outcome.andThen]
      split <;> simp_all [Nat.add_assoc, Nat.add_comm 1]

end Exec

/-- A run in which the store answers every call and no other party writes: the result, and the
store left behind. -/
def Prog.eval {α : Type} : Prog α → Store → α × Store
  | .pure a, s => (a, s)
  | .call c k, s => eval (k (s.perform c).2) (s.perform c).1
  | .event _ p, s => eval p s

namespace Prog

variable {α β : Type}

@[simp] theorem eval_pure (a : α) (s : Store) : (Prog.pure a).eval s = (a, s) := rfl

@[simp] theorem eval_call (c : Call) (k : Response → Prog α) (s : Store) :
    (Prog.call c k).eval s = (k (s.perform c).2).eval (s.perform c).1 := rfl

@[simp] theorem eval_event (e : Event) (p : Prog α) (s : Store) : (Prog.event e p).eval s = p.eval s :=
  rfl

@[simp] theorem eval_bind (p : Prog α) (f : α → Prog β) (s : Store) :
    (p.bind f).eval s = (f (p.eval s).1).eval (p.eval s).2 := by
  induction p generalizing s with
  | pure a => rfl
  | call c k ih => exact ih _ _
  | event e p ih => exact ih s

end Prog

/-- Under the schedule with no fault, no interleaved write and no crash, `exec` is `eval`. -/
theorem exec_empty {α : Type} (p : Prog α) (i : Nat) (s : Store) :
    (exec {} p i s).store = (p.eval s).2 ∧ (exec {} p i s).result = some (p.eval s).1 := by
  induction p generalizing i s with
  | pure a => exact ⟨rfl, rfl⟩
  | call c k ih => exact ih _ _ _
  | event e p ih => exact ih i s

/-- `p.Runs l a`: answered as `l` records, the program issues the calls of `l` in order and
returns `a`. -/
inductive Prog.Runs {α : Type} : Prog α → List (Call × Response) → α → Prop
  | pure (a : α) : Runs (.pure a) [] a
  | call {c : Call} {k : Response → Prog α} {r : Response} {l : List (Call × Response)} {a : α} :
      Runs (k r) l a → Runs (.call c k) ((c, r) :: l) a
  | event {e : Event} {p : Prog α} {l : List (Call × Response)} {a : α} :
      Runs p l a → Runs (.event e p) l a

namespace Prog

variable {α β : Type} {l : List (Call × Response)}

@[simp] theorem runs_pure {a b : α} : (Prog.pure a).Runs l b ↔ l = [] ∧ b = a :=
  ⟨fun h => by cases h; exact ⟨rfl, rfl⟩, fun ⟨hl, hb⟩ => hl ▸ hb ▸ .pure a⟩

@[simp] theorem runs_call {c : Call} {k : Response → Prog α} {a : α} :
    (Prog.call c k).Runs l a ↔ ∃ r l', l = (c, r) :: l' ∧ (k r).Runs l' a :=
  ⟨fun h => by cases h; exact ⟨_, _, rfl, ‹_›⟩, fun ⟨_, _, hl, h⟩ => hl ▸ .call h⟩

@[simp] theorem runs_event {e : Event} {p : Prog α} {a : α} :
    (Prog.event e p).Runs l a ↔ p.Runs l a :=
  ⟨fun h => by cases h; assumption, .event⟩

theorem Runs.of_bind {p : Prog α} {f : α → Prog β} {b : β} (h : (p.bind f).Runs l b) :
    ∃ a l₁ l₂, l = l₁ ++ l₂ ∧ p.Runs l₁ a ∧ (f a).Runs l₂ b := by
  induction p generalizing l with
  | pure a => exact ⟨a, [], l, rfl, .pure a, h⟩
  | call c k ih =>
    obtain ⟨r, l', rfl, h'⟩ := runs_call.mp h
    obtain ⟨a, l₁, l₂, rfl, h₁, h₂⟩ := ih r h'
    exact ⟨a, (c, r) :: l₁, l₂, rfl, .call h₁, h₂⟩
  | event e p ih =>
    obtain ⟨a, l₁, l₂, rfl, h₁, h₂⟩ := ih (runs_event.mp h)
    exact ⟨a, l₁, l₂, rfl, .event h₁, h₂⟩

end Prog

/-- Whatever the schedule, an invocation that returns has followed a run of its program. -/
theorem exec_runs {α : Type} {σ : Sched} {p : Prog α} {i : Nat} {s : Store} {a : α}
    (h : (exec σ p i s).result = some a) : p.Runs (exec σ p i s).calls a := by
  induction p generalizing i s with
  | pure b => cases h; exact .pure _
  | call c k ih =>
    by_cases hs : σ.stop = some i
    · simp [exec_call, hs] at h
    · simp only [exec_call, hs, if_false] at h ⊢
      exact .call (ih _ h)
  | event e p ih => exact .event (ih h)

theorem exec_result_isSome {α : Type} {σ : Sched} (hσ : σ.stop = none) (p : Prog α) (i : Nat)
    (s : Store) : (exec σ p i s).result.isSome := by
  induction p generalizing i s with
  | pure a => rfl
  | call c k ih => simp [exec_call, hσ, ih]
  | event e p ih => exact ih i s

def Response.toRedpanda : Response → Except StatusError Redpanda
  | .redpanda rp => .ok rp
  | .error e => .error e
  | _ => .error (.internalError "unexpected response")

def Response.toHelmRepository : Response → Except StatusError HelmRepository
  | .helmRepository repo => .ok repo
  | .error e => .error e
  | _ => .error (.internalError "unexpected response")

def Response.toHelmRelease : Response → Except StatusError HelmRelease
  | .helmRelease hr => .ok hr
  | .error e => .error e
  | _ => .error (.internalError "unexpected response")

def Response.toResource : Response → Except StatusError Resource
  | .resource obj => .ok obj
  | .error e => .error e
  | _ => .error (.internalError "unexpected response")

def Response.toResources : Response → Except StatusError (List Resource)
  | .resources objs => .ok objs
  | .error e => .error e
  | _ => .error (.internalError "unexpected response")

def Response.toError : Response → Option StatusError
  | .ok => none
  | .error e => some e
  | _ => some (.internalError "unexpected response")

@[simp] theorem Response.toRedpanda_eq_ok {r : Response} {rp : Redpanda} :
    r.toRedpanda = .ok rp ↔ r = .redpanda rp := by
  cases r <;> simp [toRedpanda]

@[simp] theorem Response.toHelmRepository_eq_ok {r : Response} {repo : HelmRepository} :
    r.toHelmRepository = .ok repo ↔ r = .helmRepository repo := by
  cases r <;> simp [toHelmRepository]

@[simp] theorem Response.toHelmRelease_eq_ok {r : Response} {hr : HelmRelease} :
    r.toHelmRelease = .ok hr ↔ r = .helmRelease hr := by
  cases r <;> simp [toHelmRelease]

@[simp] theorem Response.toResource_eq_ok {r : Response} {obj : Resource} :
    r.toResource = .ok obj ↔ r = .resource obj := by
  cases r <;> simp [toResource]

@[simp] theorem Response.toError_eq_none {r : Response} : r.toError = none ↔ r = .ok := by
  cases r <;> simp [toError]

namespace Client

def getRedpanda (key : ObjectKey) : Prog (Except StatusError Redpanda) :=
  .call (.getRedpanda key) fun r => .pure r.toRedpanda

def getHelmRepository (key : ObjectKey) : Prog (Except StatusError HelmRepository) :=
  .call (.getHelmRepository key) fun r => .pure r.toHelmRepository

def getHelmRelease (key : ObjectKey) : Prog (Except StatusError HelmRelease) :=
  .call (.getHelmRelease key) fun r => .pure r.toHelmRelease

def get (kind : Kind) (key : ObjectKey) : Prog (Except StatusError Resource) :=
  .call (.get kind key) fun r => .pure r.toResource

def list (kind : Kind) (ns : String) (labels : StrMap) : Prog (Except StatusError (List Resource)) :=
  .call (.list kind ns labels) fun r => .pure r.toResources

/-- A write call: `Create`, `Update`, `Patch` or `Delete`. -/
def write (c : Call) : Prog (Option StatusError) :=
  .call c fun r => .pure r.toError

/-- An `Update` of a HelmRelease decodes the object as stored back into its argument. -/
def updateHelmRelease (hr : HelmRelease) : Prog (Except StatusError HelmRelease) :=
  .call (.updateHelmRelease hr) fun r => .pure r.toHelmRelease

def emit (e : Event) : Prog Unit := .event e (.pure ())

section Bind

variable {α : Type} (f : _ → Prog α)

@[simp] theorem getRedpanda_bind (key : ObjectKey) :
    (getRedpanda key).bind f = .call (.getRedpanda key) fun r => f r.toRedpanda := rfl

@[simp] theorem getHelmRepository_bind (key : ObjectKey) :
    (getHelmRepository key).bind f = .call (.getHelmRepository key) fun r => f r.toHelmRepository := rfl

@[simp] theorem getHelmRelease_bind (key : ObjectKey) :
    (getHelmRelease key).bind f = .call (.getHelmRelease key) fun r => f r.toHelmRelease := rfl

@[simp] theorem get_bind (kind : Kind) (key : ObjectKey) :
    (get kind key).bind f = .call (.get kind key) fun r => f r.toResource := rfl

@[simp] theorem list_bind (kind : Kind) (ns : String) (labels : StrMap) :
    (list kind ns labels).bind f = .call (.list kind ns labels) fun r => f r.toResources := rfl

@[simp] theorem write_bind (c : Call) : (write c).bind f = .call c fun r => f r.toError := rfl

@[simp] theorem updateHelmRelease_bind (hr : HelmRelease) :
    (updateHelmRelease hr).bind f = .call (.updateHelmRelease hr) fun r => f r.toHelmRelease := rfl

@[simp] theorem emit_bind (e : Event) : (emit e).bind f = .event e (f ()) := rfl

end Bind

end Client

end RedpandaOperator
