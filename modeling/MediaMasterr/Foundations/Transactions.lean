import Mathlib.Logic.Function.Basic
import Mathlib.Logic.Relation

/-! # Transactions

Sessions that take turns with single statements on one database, as in SQLite
with a write-ahead log: a statement reads what is committed, or what its own
transaction has written, and a first write opens a transaction, the only one
until it commits or rolls back. When each point of the program says what its
transaction has written so far, the transactions are atomic: contents change at
commits alone. -/

namespace MediaMasterr.Foundations.Transactions

variable {κ σ ε pc : Type*} [DecidableEq κ]

structure Database (κ σ : Type*) where
  committed : σ
  /-- The open transaction, and the contents as it has changed them. -/
  pending : Option (κ × σ) := none

namespace Database

variable (db : Database κ σ) (t t' : κ)

/-- The contents as the transaction of a session has changed them. -/
def ownContents : Option σ := (db.pending.filter (·.1 = t)).map Prod.snd

/-- What a statement of a session sees. -/
def view : σ := (db.ownContents t).getD db.committed

/-- No other session has the write lock. -/
def MayWrite : Prop := db.pending.all (·.1 = t) = true

instance : Decidable (db.MayWrite t) := inferInstanceAs (Decidable (_ = _))

def write (contents : σ) : Database κ σ := { db with pending := some (t, contents) }

def rollback : Database κ σ := { db with pending := db.pending.filter (·.1 ≠ t) }

def commit : Database κ σ := { db.rollback t with committed := db.view t }

variable {db t t'}

omit [DecidableEq κ] in
@[simp] theorem committed_write {contents : σ} : (db.write t contents).committed = db.committed := rfl

@[simp] theorem committed_commit : (db.commit t).committed = db.view t := rfl

@[simp] theorem ownContents_commit : (db.commit t).ownContents t' = (db.rollback t).ownContents t' := rfl

@[simp] theorem ownContents_write {contents : σ} : (db.write t contents).ownContents t = some contents := by
  simp [ownContents, write]

@[simp] theorem ownContents_rollback_self : (db.rollback t).ownContents t = none := by
  cases hp : db.pending <;> simp [ownContents, rollback, hp]

theorem ownContents_rollback_of_ne (h : t' ≠ t) :
    (db.rollback t).ownContents t' = db.ownContents t' := by
  rcases hp : db.pending with _ | ⟨owner, contents⟩
  · simp [ownContents, rollback, hp]
  · by_cases howner : owner = t
    · subst howner
      simp [ownContents, rollback, hp, Option.filter, h.symm]
    · simp [ownContents, rollback, hp, Option.filter, howner]

/-- A session that may write is the only one with a transaction. -/
theorem ownContents_of_mayWrite (hwrite : db.MayWrite t) (h : t' ≠ t) : db.ownContents t' = none := by
  rcases hp : db.pending with _ | ⟨owner, contents⟩
  · simp [ownContents, hp]
  · have howner : owner = t := by simpa [MayWrite, hp] using hwrite
    simp [ownContents, hp, Option.filter, howner, h.symm]

theorem ownContents_write_of_ne {contents : σ} (h : t' ≠ t) :
    (db.write t contents).ownContents t' = none := by
  simp [ownContents, write, Option.filter, h.symm]

/-- Only one session has a transaction. -/
theorem eq_of_ownContents (h : (db.ownContents t).isSome) (h' : (db.ownContents t').isSome) : t = t' := by
  rcases hp : db.pending with _ | ⟨owner, contents⟩
  · simp [ownContents, hp] at h
  · by_cases ht : owner = t
    · by_cases ht' : owner = t'
      · exact ht.symm.trans ht'
      · simp [ownContents, hp, Option.filter, ht'] at h'
    · simp [ownContents, hp, Option.filter, ht] at h

end Database

/-- One statement, and the point of the program behind it. `next` gets the rows as
the statement sees them: what a query selects, or what an update returns. -/
inductive Statement (σ pc : Type*) where
  | select (next : σ → pc)
  | modify (change : σ → σ) (next : σ → pc)
  | commit (next : pc)
  | rollback (next : pc)

structure Program (σ ε pc : Type*) where
  /-- The statement at a point; at the other points a session is not in the database. -/
  statement : pc → Option (Statement σ pc)
  /-- Where an event from outside takes a session: a call begins, or an exception ends it. The
  session of the old point is closed. -/
  leave : pc → ε → Option pc

structure Config (κ σ pc : Type*) where
  database : Database κ σ
  points : κ → pc

namespace Config

variable (program : Program σ ε pc) (c : Config κ σ pc) (t : κ)

/-- The next statement of a session. A write waits for the write lock. -/
def execute : Option (Config κ σ pc) :=
  match program.statement (c.points t) with
  | none => none
  | some (.select next) =>
    some { c with points := Function.update c.points t (next (c.database.view t)) }
  | some (.modify change next) =>
    if c.database.MayWrite t then
      some
        { database := c.database.write t (change (c.database.view t))
          points := Function.update c.points t (next (c.database.view t)) }
    else none
  | some (.commit next) =>
    some { database := c.database.commit t, points := Function.update c.points t next }
  | some (.rollback next) =>
    some { database := c.database.rollback t, points := Function.update c.points t next }

def leave (e : ε) : Option (Config κ σ pc) :=
  (program.leave (c.points t) e).map fun next =>
    { database := c.database.rollback t, points := Function.update c.points t next }

/-- The process ends, and a new one begins with all its sessions at one point. -/
def restart (p : pc) : Config κ σ pc where
  database := { committed := c.database.committed }
  points := fun _ => p

end Config

/-! ## Atomic transactions -/

/-- The committed contents and the points of the sessions. -/
structure Atomic (κ σ pc : Type*) where
  contents : σ
  points : κ → pc

section

variable (program : Program σ ε pc) (written : pc → Option (σ → σ))

/-- The contents as a session at a point sees them. -/
def seen (p : pc) (contents : σ) : σ := (written p).getD id contents

/-- One step when transactions are atomic: a commit makes all the changes of its
transaction, and while a transaction has changes to make, no other one begins. -/
inductive Atomic.Step (s : Atomic κ σ pc) (t : κ) : Atomic κ σ pc → Prop where
  | select (next) (h : program.statement (s.points t) = some (.select next)) :
    Step s t { s with points := Function.update s.points t (next (seen written (s.points t) s.contents)) }
  | modify (change next) (h : program.statement (s.points t) = some (.modify change next))
    (free : ∀ t' ≠ t, written (s.points t') = none) :
    Step s t { s with points := Function.update s.points t (next (seen written (s.points t) s.contents)) }
  | commit (next) (h : program.statement (s.points t) = some (.commit next)) :
    Step s t
      { contents := seen written (s.points t) s.contents
        points := Function.update s.points t next }
  | rollback (next) (h : program.statement (s.points t) = some (.rollback next)) :
    Step s t { s with points := Function.update s.points t next }

/-- The points keep account of what their transactions have written. -/
structure Accounts : Prop where
  select {p next} (h : program.statement p = some (.select next)) (contents : σ) :
    written (next contents) = written p
  modify {p change next} (h : program.statement p = some (.modify change next)) (contents : σ) :
    written (next (seen written p contents)) ≠ none ∧
      seen written (next (seen written p contents)) contents = change (seen written p contents)
  commit {p next} (h : program.statement p = some (.commit next)) : written next = none
  rollback {p next} (h : program.statement p = some (.rollback next)) : written next = none
  leave {p e next} (h : program.leave p e = some next) : written next = none

end

namespace Config

variable {program : Program σ ε pc} {written : pc → Option (σ → σ)} {c c' : Config κ σ pc} {t : κ}

def atomic (c : Config κ σ pc) : Atomic κ σ pc := ⟨c.database.committed, c.points⟩

/-- Each session has a transaction exactly at the points that say so, with the contents
that they say. -/
def Isolated (written : pc → Option (σ → σ)) (c : Config κ σ pc) : Prop :=
  ∀ t, c.database.ownContents t = (written (c.points t)).map (· c.database.committed)

theorem Isolated.view (h : c.Isolated written) :
    c.database.view t = seen written (c.points t) c.database.committed := by
  rw [Database.view, h t, seen]
  cases written (c.points t) <;> rfl

/-- Only one session is at a point with changes. -/
theorem Isolated.eq_of_written {t' : κ} (h : c.Isolated written) (ht : written (c.points t) ≠ none)
    (ht' : written (c.points t') ≠ none) : t = t' := by
  have hsome (t : κ) (ht : written (c.points t) ≠ none) : (c.database.ownContents t).isSome := by
    rw [h t, Option.isSome_map]
    exact Option.isSome_iff_ne_none.mpr ht
  exact Database.eq_of_ownContents (hsome t ht) (hsome t' ht')

/-- Another session than the one that has moved keeps its transaction. -/
theorem isolated_update {next : pc} {db : Database κ σ} (h : c.Isolated written)
    (hself : db.ownContents t = (written next).map (· db.committed))
    (hothers : ∀ t' ≠ t, db.ownContents t' = c.database.ownContents t')
    (hcommitted : ∀ t' ≠ t, written (c.points t') ≠ none → db.committed = c.database.committed) :
    Isolated written { database := db, points := Function.update c.points t next } := by
  intro t'
  by_cases ht : t' = t
  · subst ht
    simpa using hself
  · change db.ownContents t' = (written (Function.update c.points t next t')).map (· db.committed)
    rw [hothers t' ht, h t', Function.update_of_ne ht]
    cases hwritten : written (c.points t') with
    | none => rfl
    | some change => rw [Option.map_some, Option.map_some, hcommitted t' ht (by simp [hwritten])]

/-- An event from outside changes no contents. -/
theorem isolated_leave (haccounts : Accounts program written) (h : c.Isolated written) {e : ε}
    (hstep : c.leave program t e = some c') :
    c'.Isolated written ∧ ∃ next, program.leave (c.points t) e = some next ∧
      c'.atomic = { c.atomic with points := Function.update c.points t next } := by
  obtain ⟨next, hnext, rfl⟩ := Option.map_eq_some_iff.mp hstep
  refine ⟨isolated_update h ?_ (fun t' ht => Database.ownContents_rollback_of_ne ht)
    fun _ _ _ => rfl, next, hnext, rfl⟩
  simp [haccounts.leave hnext]

theorem isolated_restart {p : pc} (hp : written p = none) : (c.restart p).Isolated written := by
  intro t
  simp [restart, Database.ownContents, hp]

/-- Transactions are atomic: a statement is a step of the atomic system. -/
theorem isolated_execute (haccounts : Accounts program written) (h : c.Isolated written)
    (hstep : c.execute program t = some c') :
    c'.Isolated written ∧ Atomic.Step program written c.atomic t c'.atomic := by
  have hview : c.database.view t = seen written (c.points t) c.database.committed := h.view
  unfold execute at hstep
  split at hstep
  next => cases hstep
  next next hnext =>
    obtain rfl := Option.some.inj hstep
    refine ⟨isolated_update h ?_ (fun _ _ => rfl) fun _ _ _ => rfl, ?_⟩
    · rw [h t, haccounts.select hnext]
    · have hatomic : Atomic.Step program written c.atomic t _ := .select next hnext
      simpa only [atomic, hview] using hatomic
  next change next hnext =>
    split at hstep
    next hwrite =>
      obtain rfl := Option.some.inj hstep
      obtain ⟨hsome, hchange⟩ := haccounts.modify hnext c.database.committed
      obtain ⟨total, htotal⟩ := Option.ne_none_iff_exists'.mp hsome
      refine ⟨isolated_update h ?_ (fun t' ht => ?_) fun _ _ _ => rfl, ?_⟩
      · rw [hview, ← hchange, Database.ownContents_write, seen, htotal]
        rfl
      · rw [Database.ownContents_write_of_ne ht, Database.ownContents_of_mayWrite hwrite ht]
      · have hatomic := Atomic.Step.modify (s := c.atomic) change next hnext fun t' ht => by
          have hnone := h t'
          rw [Database.ownContents_of_mayWrite hwrite ht] at hnone
          exact Option.map_eq_none_iff.mp hnone.symm
        simpa only [atomic, Database.committed_write, hview] using hatomic
    next => cases hstep
  next next hnext =>
    obtain rfl := Option.some.inj hstep
    refine ⟨isolated_update h ?_ (fun t' ht => Database.ownContents_rollback_of_ne ht)
      fun t' ht hwritten => ?_, ?_⟩
    · simp [haccounts.commit hnext]
    · -- the transaction is that of the other session, so this one commits nothing
      have hnone : written (c.points t) = none := by
        by_contra hsome
        exact ht (h.eq_of_written hwritten hsome)
      simp [hview, seen, hnone]
    · have hatomic : Atomic.Step program written c.atomic t _ := .commit next hnext
      simpa only [atomic, Database.committed_commit, hview] using hatomic
  next next hnext =>
    obtain rfl := Option.some.inj hstep
    refine ⟨isolated_update h ?_ (fun t' ht => Database.ownContents_rollback_of_ne ht)
      fun _ _ _ => rfl, ?_⟩
    · simp [haccounts.rollback hnext]
    · exact .rollback next hnext

/-! ## Sessions without interruption -/

variable {points : κ → pc} {s s' : σ} {p : pc}

/-- A session has its next statement, again and again. -/
def RunsAlone (program : Program σ ε pc) (t : κ) : Config κ σ pc → Config κ σ pc → Prop :=
  Relation.ReflTransGen fun c c' => c.execute program t = some c'

/-- The configuration in which a session stands at a point. -/
def sessionAt (points : κ → pc) (t : κ) (database : Database κ σ) (p : pc) : Config κ σ pc where
  database := database
  points := Function.update points t p

theorem RunsAlone.select {c : Config κ σ pc} {next : σ → pc}
    (hnext : program.statement p = some (.select next))
    (h : RunsAlone program t (sessionAt points t ⟨s, none⟩ (next s)) c) :
    RunsAlone program t (sessionAt points t ⟨s, none⟩ p) c :=
  .head (by simp [execute, sessionAt, hnext, Database.view, Database.ownContents]) h

theorem RunsAlone.modify {c : Config κ σ pc} {change : σ → σ} {next : σ → pc}
    (hnext : program.statement p = some (.modify change next))
    (h : RunsAlone program t (sessionAt points t ⟨s, some (t, change s)⟩ (next s)) c) :
    RunsAlone program t (sessionAt points t ⟨s, none⟩ p) c :=
  .head (by simp [execute, sessionAt, hnext, Database.MayWrite, Database.view, Database.ownContents,
    Database.write]) h

theorem RunsAlone.commit {c : Config κ σ pc} {next : pc}
    (hnext : program.statement p = some (.commit next))
    (h : RunsAlone program t (sessionAt points t ⟨s', none⟩ next) c) :
    RunsAlone program t (sessionAt points t ⟨s, some (t, s')⟩ p) c :=
  .head (by simp [execute, sessionAt, hnext, Database.commit, Database.view, Database.ownContents,
    Database.rollback, Option.filter]) h

end Config

end MediaMasterr.Foundations.Transactions
