import Mathlib.Data.List.Basic

/-!
Go values the controller handles. A `map[string]string` (labels, annotations, selectors) is an
association list read through `lookup`, so an entry shadows later entries with its key. Object
metadata comes with the `controllerutil` finalizer helpers, status conditions with the `apimeta`
reads and writes the controller uses, and errors with the three ways the controller builds them.
-/

namespace RedpandaOperator

/-- A Go `map[string]string`. -/
abbrev StrMap := List (String × String)

namespace StrMap

/-- `m[k]`, the `ok` flag folded into the option. -/
def get? (m : StrMap) (k : String) : Option String := m.lookup k

/-- `m[k] = v`. -/
def set (m : StrMap) (k v : String) : StrMap := (k, v) :: m

/-- `maps.Equal`: both maps bind the same keys to the same values. -/
def mapsEqual (a b : StrMap) : Bool :=
  (a.map Prod.fst ++ b.map Prod.fst).all fun k => a.get? k == b.get? k

@[simp] theorem get?_nil (k : String) : get? [] k = none := rfl

@[simp] theorem get?_cons (k v j : String) (m : StrMap) :
    get? ((k, v) :: m) j = if j = k then some v else m.get? j := by
  by_cases h : j = k
  · simp [get?, h]
  · simp [get?, List.lookup_cons, h, beq_false_of_ne h]

@[simp] theorem get?_set (m : StrMap) (k v j : String) :
    (m.set k v).get? j = if j = k then some v else m.get? j := get?_cons k v j m

end StrMap

structure ObjectKey where
  ns : String
  name : String
deriving DecidableEq, Repr

/-- The part of `metav1.ObjectMeta` the controller and the store read or write. -/
structure ObjectMeta where
  name : String := ""
  ns : String := ""
  labels : StrMap := []
  annotations : StrMap := []
  finalizers : List String := []
  deletionTimestamp : Option Nat := none
  generation : Nat := 0
  resourceVersion : Nat := 0
deriving DecidableEq, Repr

namespace ObjectMeta

def key (m : ObjectMeta) : ObjectKey := ⟨m.ns, m.name⟩

/-- `controllerutil.ContainsFinalizer`. -/
def containsFinalizer (m : ObjectMeta) (f : String) : Bool := m.finalizers.contains f

/-- `controllerutil.AddFinalizer`: appended unless already present. -/
def addFinalizer (m : ObjectMeta) (f : String) : ObjectMeta :=
  if m.finalizers.contains f then m else { m with finalizers := m.finalizers ++ [f] }

/-- `controllerutil.RemoveFinalizer`: every occurrence is dropped. -/
def removeFinalizer (m : ObjectMeta) (f : String) : ObjectMeta :=
  { m with finalizers := m.finalizers.filter (· != f) }

@[simp] theorem containsFinalizer_iff (m : ObjectMeta) (f : String) :
    m.containsFinalizer f = true ↔ f ∈ m.finalizers := by
  simp [containsFinalizer]

theorem mem_addFinalizer (m : ObjectMeta) (f g : String) :
    g ∈ (m.addFinalizer f).finalizers ↔ g ∈ m.finalizers ∨ g = f := by
  unfold addFinalizer
  split <;> simp_all

theorem addFinalizer_eq (m : ObjectMeta) (f : String) :
    m.addFinalizer f = { m with finalizers := (m.addFinalizer f).finalizers } := by
  unfold addFinalizer
  split <;> rfl

@[simp] theorem addFinalizer_ns (m : ObjectMeta) (f : String) : (m.addFinalizer f).ns = m.ns := by
  rw [addFinalizer_eq]

@[simp] theorem addFinalizer_key (m : ObjectMeta) (f : String) : (m.addFinalizer f).key = m.key := by
  rw [addFinalizer_eq]; rfl

@[simp] theorem mem_removeFinalizer (m : ObjectMeta) (f g : String) :
    g ∈ (m.removeFinalizer f).finalizers ↔ g ∈ m.finalizers ∧ g ≠ f := by
  simp [removeFinalizer]

@[simp] theorem removeFinalizer_labels (m : ObjectMeta) (f : String) :
    (m.removeFinalizer f).labels = m.labels := rfl

@[simp] theorem removeFinalizer_annotations (m : ObjectMeta) (f : String) :
    (m.removeFinalizer f).annotations = m.annotations := rfl

@[simp] theorem removeFinalizer_key (m : ObjectMeta) (f : String) :
    (m.removeFinalizer f).key = m.key := rfl

@[simp] theorem removeFinalizer_resourceVersion (m : ObjectMeta) (f : String) :
    (m.removeFinalizer f).resourceVersion = m.resourceVersion := rfl

end ObjectMeta

inductive ConditionStatus where
  | conditionTrue
  | conditionFalse
  | conditionUnknown
deriving DecidableEq, Repr

/-- A `metav1.Condition` without its timestamps. -/
structure Condition where
  type : String
  status : ConditionStatus
  reason : String
  message : String
deriving DecidableEq, Repr

/-- `meta.ReadyCondition`. -/
def readyCondition : String := "Ready"

/-- `apimeta.IsStatusConditionTrue`: the first condition of the type has status True. -/
def isStatusConditionTrue (cs : List Condition) (type : String) : Bool :=
  match cs.find? (·.type == type) with
  | some c => c.status == .conditionTrue
  | none => false

/-- `apimeta.SetStatusCondition`: the first condition of the type is replaced, or the new one
appended. -/
def setStatusCondition : List Condition → Condition → List Condition
  | [], c => [c]
  | d :: ds, c => if d.type = c.type then c :: ds else d :: setStatusCondition ds c

/-- A status error of the API server, as `apierrors` classifies it. -/
inductive StatusError where
  | notFound
  | alreadyExists
  | conflict
  | internalError (reason : String)
deriving DecidableEq, Repr

/-- A Go `error` as this controller builds it. -/
inductive GoError where
  /-- returned by a store call -/
  | status (err : StatusError)
  /-- `fmt.Errorf("msg: %w", err)` -/
  | wrapped (msg : String) (err : GoError)
  /-- `errors.New(msg)` -/
  | text (msg : String)
deriving DecidableEq, Repr

def StatusError.message : StatusError → String
  | .notFound => "not found"
  | .alreadyExists => "already exists"
  | .conflict => "the object has been modified"
  | .internalError reason => reason

/-- `err.Error()`. -/
def GoError.message : GoError → String
  | .status e => e.message
  | .wrapped msg e => msg ++ ": " ++ e.message
  | .text msg => msg

/-- `client.IgnoreNotFound`. -/
def ignoreNotFound : StatusError → Option GoError
  | .notFound => none
  | e => some (.status e)

/-- `ctrl.Result`; durations are in seconds. -/
structure Result where
  requeue : Bool := false
  requeueAfter : Nat := 0
deriving DecidableEq, Repr

/-- An event recorded by `AnnotatedEventf` on the object `kind`/`key`. -/
structure Event where
  kind : String
  key : ObjectKey
  annotations : StrMap
  eventType : String
  reason : String
  message : String
deriving DecidableEq, Repr

end RedpandaOperator
