import ClientRegistration.Session.State
namespace ClientRegistration

abbrev Action (σ α : Type) := ExceptT Fault (StateM (Session σ)) α

namespace Session

variable {σ : Type}

/-- The result of an action, and the session after it. -/
def run {α : Type} (s : Session σ) (action : Action σ α) : Except Fault α × Session σ :=
  (ExceptT.run action).run s

section

variable {α β : Type} (s : Session σ)

@[simp] theorem run_pure (a : α) : s.run (pure a) = (.ok a, s) := rfl

@[simp] theorem run_throw (fault : Fault) : s.run (throw fault : Action σ α) = (.error fault, s) :=
  rfl

@[simp] theorem run_get : s.run (get : Action σ (Session σ)) = (.ok s, s) := rfl

@[simp] theorem run_modify (f : Session σ → Session σ) :
    s.run (modify f : Action σ Unit) = (.ok (), f s) := rfl

theorem run_bind (action : Action σ α) (next : α → Action σ β) :
    s.run (action >>= next) =
      match s.run action with
      | (.ok a, after) => after.run (next a)
      | (.error fault, after) => (.error fault, after) := by
  simp only [run, ExceptT.run_bind, StateT.run_bind]
  rcases StateT.run (ExceptT.run action) s with ⟨_ | _, _⟩ <;> rfl

theorem run_map (f : α → β) (action : Action σ α) :
    s.run (f <$> action) = ((s.run action).1.map f, (s.run action).2) := by
  rw [map_eq_pure_bind, run_bind]
  rcases s.run action with ⟨_ | _, _⟩ <;> rfl

theorem run_tryCatch (action : Action σ α) (handler : Fault → Action σ α) :
    s.run (tryCatch action handler) =
      match s.run action with
      | (.ok a, after) => (.ok a, after)
      | (.error fault, after) => after.run (handler fault) := by
  simp only [run, ExceptT.run_tryCatch, StateT.run_bind]
  rcases StateT.run (ExceptT.run action) s with ⟨_ | _, _⟩ <;> rfl

end

/-- Something that fails without touching the session. -/
def lift {α : Type} (result : Except Fault α) : Action σ α :=
  match result with
  | .ok a => pure a
  | .error fault => throw fault

@[simp] theorem run_lift {α : Type} (s : Session σ) (result : Except Fault α) :
    s.run (lift result) = (result, s) := by
  cases result <;> rfl

def note (event : Event) : Action σ Unit :=
  modify fun s => { s with journal := s.journal ++ [event] }

def log (record : LogRecord) : Action σ Unit := note (.logged record)

@[simp] theorem run_note (s : Session σ) (event : Event) :
    s.run (note event) = (.ok (), { s with journal := s.journal ++ [event] }) := rfl

@[simp] theorem run_log (s : Session σ) (record : LogRecord) :
    s.run (log record) = (.ok (), { s with journal := s.journal ++ [.logged record] }) := rfl

def entry {α : Type} (entries : List α) (number : Nat) : Action σ α :=
  match entries[number]? with
  | some a => pure a
  | none => throw (.indexOutOfRange "list")

def handle (number : Nat) : Action σ (Handle σ) := do entry (← get).handles number

def document (number : Nat) : Action σ Metadata := do entry (← get).documents number

def request (number : Nat) : Action σ Request := do entry (← get).requests number

def task (number : Nat) : Action σ Task := do entry (← get).tasks number

def setHandle (number : Nat) (h : Handle σ) : Action σ Unit :=
  modify fun s => { s with handles := s.handles.set number h }

def setRequest (number : Nat) (request : Request) : Action σ Unit :=
  modify fun s => { s with requests := s.requests.set number request }

def setStage (number : Nat) (t : Task) (stage : Stage) : Action σ Unit :=
  modify fun s => { s with tasks := s.tasks.set number { t with stage } }

def addDocument (m : Metadata) : Action σ Nat := do
  let s ← get
  modify fun s => { s with documents := s.documents ++ [m] }
  return s.documents.length

def addRequest (request : Request) : Action σ Nat := do
  let s ← get
  modify fun s => { s with requests := s.requests ++ [request] }
  return s.requests.length

def addTask (t : Task) : Action σ Nat := do
  let s ← get
  modify fun s => { s with tasks := s.tasks ++ [t] }
  return s.tasks.length

def addHandle (metadata : Metadata) (uri token : Value) (config : Config)
    (filters : FilterSet σ) : Action σ Nat := do
  let registry ← lift filters.normalize
  let document ← addDocument metadata
  let s ← get
  modify fun s => { s with
    handles := s.handles ++ [{ document, uri, token, config, registry, closed := false }] }
  return s.handles.length

end Session

end ClientRegistration
