import FixBackend.Effects
/-!
# Sessions — calls inside a database transaction

A session works on a copy of its own, which starts as what is committed; `commit` makes the copy what is committed.
What a session has not committed when it is closed is rolled back, whether it returns or raises.
-/
namespace Sessions

open Effects

variable {ε σ α : Type}

/-- What is committed, and what the transaction of a session sees. -/
structure Transaction (σ : Type) where
  committed : σ
  working : σ

abbrev Session (ε σ : Type) := Call ε (Transaction σ)

/-- A statement, run on what the transaction sees. -/
def execute (f : σ → α × σ) : Session ε σ α :=
  modifyGet fun t => ((f t.working).1, { t with working := (f t.working).2 })

def commit : Session ε σ PUnit := modify fun t => { t with committed := t.working }

def executeAndCommit (f : σ → α × σ) : Session ε σ α := do
  let a ← execute f
  commit
  return a

def inSession (m : Session ε σ α) : Call ε σ α := embed (fun s => ⟨s, s⟩) (fun _ t => t.committed) m

/-- A statement reads what is committed, and is rolled back when nothing more follows. -/
@[simp] theorem exec_inSession_execute (f : σ → α × σ) (s : σ) :
    exec (inSession (execute f : Session ε σ α)) s = (.ok (f s).1, s) := rfl

/-- **What a session commits is what later sessions see.** -/
@[simp] theorem exec_inSession_executeAndCommit (f : σ → α × σ) (s : σ) :
    exec (inSession (executeAndCommit f : Session ε σ α)) s = (.ok (f s).1, (f s).2) := rfl

theorem keeps_executeAndCommit {I : σ → Prop} (f : σ → α × σ) (h : ∀ s, I s → I (f s).2) :
    Keeps I (inSession (executeAndCommit f : Session ε σ α)) := Triple.of_exec fun s hs => h s hs

end Sessions
