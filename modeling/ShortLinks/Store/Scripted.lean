import ShortLinks.Store

/-!
# Scripted stores

A store that stands before another one, notes every call and may answer in its place. For each kind of call
a script says how the next ones are answered; where it says nothing the other store is asked.
-/

set_option autoImplicit false

namespace ShortLinks

inductive Call where
  | add (entry : Entry)
  | getById (id : String)
  | allByOwner (owner : String)
  | createBatch (batch : List Entry)
  | softDelete (requester : String) (ids : List String)
  | stats
  | ping
  | close
deriving DecidableEq, Repr

inductive Prepared (α : Type) where
  | pass
  | fail (cause : StoreError)
  /-- By saying that the id of the call is taken. -/
  | clash
  | give (result : α)

structure Script where
  add : List (Prepared String)
  getById : List (Prepared (Option Entry))
  allByOwner : List (Prepared (List Entry))
  createBatch : List (Prepared (List Entry))
  softDelete : List (Prepared Unit)
  stats : List (Prepared Stats)
  ping : List (Prepared Unit)

def Script.empty : Script := ⟨[], [], [], [], [], [], []⟩

structure ScriptedStore (σ : Type) where
  inner : σ
  script : Script
  calls : List Call

namespace ScriptedStore

variable {σ α : Type}

/-- Carries out a call as prepared. `own` is the id that a clash names. -/
def carryOut (prepared : Prepared α) (own : String) (real : Action StoreError σ α) :
    Action StoreError (ScriptedStore σ) α :=
  match prepared with
  | .pass => Action.onPart inner (fun inner s => { s with inner }) real
  | .fail cause => Action.fail cause
  | .clash => Action.fail (.duplicateId own)
  | .give result => pure result

/-- Notes a call and carries it out as the script says next. -/
def answer (part : Script → List (Prepared α)) (replace : List (Prepared α) → Script → Script) (call : Call)
    (own : String) (real : Action StoreError σ α) : Action StoreError (ScriptedStore σ) α := do
  let s ← Action.state
  let prepared := part s.script
  Action.set { s with script := replace prepared.tail s.script, calls := s.calls ++ [call] }
  carryOut (prepared.headD .pass) own real

instance [Store σ] : Store (ScriptedStore σ) where
  add e := answer Script.add (fun add s => { s with add }) (.add e) e.id (Store.add e)
  getById id := answer Script.getById (fun getById s => { s with getById }) (.getById id) id (Store.getById id)
  allByOwner owner :=
    answer Script.allByOwner (fun allByOwner s => { s with allByOwner }) (.allByOwner owner) "" (Store.allByOwner owner)
  createBatch batch :=
    answer Script.createBatch (fun createBatch s => { s with createBatch }) (.createBatch batch)
      ((batch.head?.map Entry.id).getD "") (Store.createBatch batch)
  softDelete requester ids :=
    answer Script.softDelete (fun softDelete s => { s with softDelete }) (.softDelete requester ids) ""
      (Store.softDelete requester ids)
  stats := answer Script.stats (fun stats s => { s with stats }) .stats "" Store.stats
  ping := answer Script.ping (fun ping s => { s with ping }) .ping "" Store.ping
  close := do
    Action.modify fun s => { s with calls := s.calls ++ [.close] }
    carryOut .pass "" Store.close

end ScriptedStore
end ShortLinks
