import Mathlib.Data.List.Induction
import RecordQuery.Dataset
import RecordQuery.Proofs.Decoding
import RecordQuery.Proofs.Soundness

/-!
Runs: datasets through any commands, failing ones included.

A command can do two things to the records, put those of a document in their place and add one at
their end; `loaded?` and `added?` say what it gives for that, from the schema alone, and `Effect`
says once what one step can be. So what a dataset holds after a run is known from the commands, and
each of its records is one that some command gave.
-/

namespace RecordQuery

namespace Command

def selects : Command → Bool
  | select _ | selectToml _ => true
  | _ => false

/-- The records that a load gives, if it succeeds. -/
def loaded? (schema : RecordSchema) : Command → Option (List Record)
  | load text => (Dataset.ofJson schema text).toOption.map Dataset.records
  | _ => none

/-- The record that a command adds, if it succeeds. -/
def added? (schema : RecordSchema) : Command → Option Record
  | insert record => (schema.validateRecord record).toOption.map fun _ => record
  | insertTree tree => (schema.decodeRecord tree).toOption
  | insertJson text =>
    (Json.parse? text).bind fun tree => (schema.decodeRecord tree).toOption
  | _ => none

/-- The last command that loads gave `base`, and `after` are the commands since; `base` is empty
and `after` are all commands if none loads. -/
inductive SinceLoad (schema : RecordSchema) :
    List Command → List Record → List Command → Prop where
  | never {commands : List Command} (h : ∀ c ∈ commands, c.loaded? schema = none) :
      SinceLoad schema commands [] commands
  | last (before : List Command) {c : Command} {after : List Command} {base : List Record}
      (hc : c.loaded? schema = some base) (h : ∀ c ∈ after, c.loaded? schema = none) :
      SinceLoad schema (before ++ c :: after) base after

/-- A record that a command gave. -/
def Gives (schema : RecordSchema) (c : Command) (r : Record) : Prop :=
  c.added? schema = some r ∨ ∃ records, c.loaded? schema = some records ∧ r ∈ records

end Command

namespace Dataset

variable {schema : RecordSchema} {text : String}

/-! ### Insertion -/

lemma insert_run (record : Record) (d : Dataset) :
    (insert record).run d =
      match d.schema.validateRecord record with
      | .ok () => .ok () (d.push record)
      | .error e => .error (.query e) d := by
  refine (run_checked (fun d : Dataset => liftQuery (d.schema.validateRecord record))
    (fun _ d => d.push record) d).trans ?_
  cases d.schema.validateRecord record <;> rfl

lemma insertTree_run (tree : Json) (d : Dataset) :
    (insertTree tree).run d =
      match d.schema.decodeRecord tree with
      | .ok record => .ok () (d.push record)
      | .error e => .error (.query e) d := by
  refine (run_checked (fun d : Dataset => liftQuery (d.schema.decodeRecord tree))
    (fun record d => d.push record) d).trans ?_
  cases d.schema.decodeRecord tree <;> rfl

lemma insertJson_run (text : String) (d : Dataset) :
    (insertJson text).run d =
      match Json.parse? text with
      | none => .error .malformed d
      | some tree => (insertTree tree).run d := by
  delta insertJson
  cases Json.parse? text <;> rfl

/-! ### Documents of records -/

/-- Inserting trees one by one decodes all of them, or stops at the first that is no record. -/
lemma finalState_insertTrees (trees : List Json) (d : Dataset) :
    finalState (trees.forM insertTree) d =
      match mapOk d.schema.decodeRecord trees with
      | .error e => .error (.query e)
      | .ok records => .ok { d with records := d.records ++ records } := by
  induction trees generalizing d with
  | nil => simp [finalState, mapOk]
  | cons tree trees ih =>
    change (finalState (insertTree tree >>= fun _ => trees.forM insertTree) d) = _
    rw [finalState, EStateM.run_bind, insertTree_run, mapOk]
    cases d.schema.decodeRecord tree with
    | error e => rfl
    | ok record =>
      refine (ih (d.push record)).trans ?_
      simp only [push]
      cases mapOk d.schema.decodeRecord trees with
      | error e => rfl
      | ok records => simp

lemma ofJson_eq (schema : RecordSchema) (text : String) :
    ofJson schema text =
      match (Json.parse? text).bind Json.asArray? with
      | none => .error .malformed
      | some trees =>
        match mapOk schema.decodeRecord trees with
        | .error e => .error (.query e)
        | .ok records => .ok ⟨schema, records⟩ := by
  unfold ofJson
  cases (Json.parse? text).bind Json.asArray? with
  | none => rfl
  | some trees => exact finalState_insertTrees trees (empty schema)

/-- A document is loaded whole. -/
lemma ofJson_eq_ok_iff {d : Dataset} :
    ofJson schema text = .ok d ↔ d.schema = schema ∧ ∃ trees,
      (Json.parse? text).bind Json.asArray? = some trees ∧
        List.Forall₂ (fun tree r => schema.decodeRecord tree = .ok r) trees d.records := by
  rw [ofJson_eq]
  cases (Json.parse? text).bind Json.asArray? with
  | none => simp
  | some trees =>
    simp only [Option.some.injEq, exists_eq_left', ← mapOk_eq_ok_iff]
    cases mapOk schema.decodeRecord trees with
    | error e => simp
    | ok records =>
      simp only [Except.ok.injEq]
      constructor
      · rintro rfl
        exact ⟨rfl, rfl⟩
      · rintro ⟨rfl, rfl⟩
        rfl

/-- A document is not loaded at all when it is malformed, or at its first object that is not a
record. -/
lemma ofJson_eq_error_iff {e : DatasetError} :
    ofJson schema text = .error e ↔
      ((Json.parse? text).bind Json.asArray? = none ∧ e = .malformed) ∨
      ∃ trees fault, (Json.parse? text).bind Json.asArray? = some trees ∧
        FirstFault schema.decodeRecord trees fault ∧ e = .query fault := by
  rw [ofJson_eq]
  cases (Json.parse? text).bind Json.asArray? with
  | none => simp [eq_comm]
  | some trees =>
    simp only [reduceCtorEq, false_and, false_or, Option.some.injEq, exists_and_left,
      exists_eq_left', ← mapOk_eq_error_iff]
    cases mapOk schema.decodeRecord trees with
    | error fault => simp [eq_comm]
    | ok records => simp

end Dataset

/-! ### One step -/

namespace Command

variable {schema : RecordSchema} {d : Dataset} {c : Command} {commands : List Command}

/-- All that a command can do to a dataset. -/
inductive Effect (schema : RecordSchema) (d : Dataset) (c : Command) : Prop where
  | failed (e : DatasetError) (hstep : (c.step schema).run d = .error e d)
      (hload : c.loaded? schema = none) (hadd : c.added? schema = none)
  | selected (out : List Record) (hstep : (c.step schema).run d = .ok out d)
      (hc : c.selects = true) (hload : c.loaded? schema = none) (hadd : c.added? schema = none)
  | loaded (records : List Record) (hstep : (c.step schema).run d = .ok [] ⟨schema, records⟩)
      (hc : c.selects = false) (hload : c.loaded? schema = some records)
      (hadd : c.added? schema = none)
  | added (r : Record) (hstep : (c.step schema).run d = .ok [] (d.push r))
      (hc : c.selects = false) (hload : c.loaded? schema = none)
      (hadd : c.added? schema = some r)

/-- An insertion adds the record that it has, if it has one. -/
lemma Effect.of_insertion {x : Except QueryError Record}
    (hstep : (c.step schema).run d =
      match x with
      | .ok r => .ok [] (d.push r)
      | .error e => .error (.query e) d)
    (hc : c.selects = false) (hload : c.loaded? schema = none)
    (hadd : c.added? schema = x.toOption) : Effect schema d c := by
  cases x with
  | error e => exact .failed (.query e) hstep hload hadd
  | ok r => exact .added r hstep hc hload hadd

lemma Effect.of_selection {x : Except DatasetError (List Record)}
    (hstep : (c.step schema).run d = (MonadExcept.ofExcept x : EStateM _ _ _).run d)
    (hc : c.selects = true) (hload : c.loaded? schema = none) (hadd : c.added? schema = none) :
    Effect schema d c := by
  rw [run_ofExcept] at hstep
  cases x with
  | error e => exact .failed e hstep hload hadd
  | ok out => exact .selected out hstep hc hload hadd

lemma effect (hd : d.schema = schema) (c : Command) : Effect schema d c := by
  subst hd
  cases c with
  | load text =>
    cases h : Dataset.ofJson d.schema text with
    | error e =>
      exact .failed e (by simp only [step, EStateM.run_bind, run_ofExcept, h])
        (by simp [loaded?, h, Except.toOption]) rfl
    | ok d' =>
      obtain ⟨s, records⟩ := d'
      obtain ⟨rfl, -⟩ := Dataset.ofJson_eq_ok_iff.1 h
      have hstep : ((load text).step d.schema).run d = .ok [] ⟨d.schema, records⟩ := by
        simp only [step, EStateM.run_bind, run_ofExcept, h]
        rfl
      exact .loaded records hstep rfl (by simp [loaded?, h, Except.toOption]) rfl
  | insert record =>
    refine .of_insertion (x := (d.schema.validateRecord record).map fun _ => record) ?_ rfl rfl ?_
    · simp only [step, EStateM.run_bind, Dataset.insert_run]
      cases d.schema.validateRecord record <;> rfl
    · simp only [added?]
      cases d.schema.validateRecord record <;> rfl
  | insertTree tree =>
    refine .of_insertion (x := d.schema.decodeRecord tree) ?_ rfl rfl rfl
    simp only [step, EStateM.run_bind, Dataset.insertTree_run]
    cases d.schema.decodeRecord tree <;> rfl
  | insertJson text =>
    cases h : Json.parse? text with
    | none =>
      exact .failed .malformed (by simp only [step, EStateM.run_bind, Dataset.insertJson_run, h])
        rfl (by simp [added?, h])
    | some tree =>
      refine .of_insertion (x := d.schema.decodeRecord tree) ?_ rfl rfl (by simp [added?, h])
      simp only [step, EStateM.run_bind, Dataset.insertJson_run, h, Dataset.insertTree_run]
      cases d.schema.decodeRecord tree <;> rfl
  | select q => exact .of_selection (x := d.select q) rfl rfl rfl rfl
  | selectToml text => exact .of_selection (x := d.selectToml text) rfl rfl rfl rfl

/-- A command that fails changes nothing. -/
lemma eq_of_step_eq_error (hd : d.schema = schema) {e : DatasetError} {d' : Dataset}
    (h : (c.step schema).run d = .error e d') : d' = d := by
  cases effect hd c with
  | failed _ hstep => exact (EStateM.Result.error.inj (hstep.symm.trans h)).2.symm
  | selected _ hstep | loaded _ hstep | added _ hstep => simp [hstep] at h

lemma eq_of_selects (hd : d.schema = schema) (hc : c.selects = true) {out : List Record}
    {d' : Dataset} (h : (c.step schema).run d = .ok out d') : d' = d := by
  cases effect hd c with
  | failed _ hstep => simp [hstep] at h
  | selected _ hstep => exact (EStateM.Result.ok.inj (hstep.symm.trans h)).2.symm
  | loaded _ _ hno | added _ _ hno => simp [hc] at hno

/-- Other commands than selections succeed when they have something to load or to add. -/
lemma step_eq_ok_iff (hd : d.schema = schema) (h : c.selects = false) :
    (∃ out d', (c.step schema).run d = .ok out d') ↔
      (∃ records, c.loaded? schema = some records) ∨ ∃ r, c.added? schema = some r := by
  cases effect hd c with
  | failed _ hstep hload hadd => simp [hstep, hload, hadd]
  | selected _ _ hc => simp [hc] at h
  | loaded _ hstep _ hload => simp [hstep, hload]
  | added _ hstep _ _ hadd => simp [hstep, hadd]

/-! ### All steps -/

lemma run_concat (commands : List Command) (c : Command) :
    run schema (commands ++ [c]) = stateAfter schema (run schema commands) c :=
  List.foldl_append

lemma run_schema (schema : RecordSchema) (commands : List Command) :
    (run schema commands).schema = schema := by
  induction commands using List.reverseRecOn with
  | nil => rfl
  | append_singleton commands c ih =>
    rw [run_concat, stateAfter]
    cases effect ih c with
    | failed _ hstep => rw [hstep, ih]
    | selected _ hstep => rw [hstep, ih]
    | loaded _ hstep => rw [hstep]
    | added _ hstep => rw [hstep, Dataset.push, ih]

lemma SinceLoad.concat {base : List Record} {after : List Command}
    (h : SinceLoad schema commands base after) (hc : c.loaded? schema = none) :
    SinceLoad schema (commands ++ [c]) base (after ++ [c]) := by
  have hlast : ∀ c' ∈ [c], c'.loaded? schema = none := List.forall_mem_singleton.2 hc
  cases h with
  | never hnever => exact .never (List.forall_mem_append.2 ⟨hnever, hlast⟩)
  | last before hload hafter =>
    rw [List.append_assoc]
    exact .last before hload (List.forall_mem_append.2 ⟨hafter, hlast⟩)

/-- **What a run holds.** The records of the last load, and after them those added since. -/
lemma run_records (schema : RecordSchema) (commands : List Command) :
    ∃ base after, SinceLoad schema commands base after ∧
      (run schema commands).records = base ++ after.filterMap (added? schema) := by
  induction commands using List.reverseRecOn with
  | nil => exact ⟨[], [], .never (by simp), rfl⟩
  | append_singleton commands c ih =>
    obtain ⟨base, after, hsince, hrecords⟩ := ih
    rw [run_concat, stateAfter]
    cases effect (run_schema schema commands) c with
    | failed _ hstep hload hadd =>
      exact ⟨base, after ++ [c], hsince.concat hload, by simp [hstep, hrecords, hadd]⟩
    | selected _ hstep _ hload hadd =>
      exact ⟨base, after ++ [c], hsince.concat hload, by simp [hstep, hrecords, hadd]⟩
    | loaded records hstep _ hload =>
      exact ⟨records, [], .last commands hload (by simp), by simp [hstep]⟩
    | added _ hstep _ hload hadd =>
      exact ⟨base, after ++ [c], hsince.concat hload,
        by simp [hstep, Dataset.push, hrecords, hadd]⟩

/-- Every record came by some command. -/
lemma exists_gives_of_mem_run {r : Record} (h : r ∈ (run schema commands).records) :
    ∃ c ∈ commands, c.Gives schema r := by
  obtain ⟨base, after, hsince, hrecords⟩ := run_records schema commands
  rw [hrecords, List.mem_append] at h
  have hadded : r ∈ after.filterMap (added? schema) → ∃ c ∈ after, c.Gives schema r := by
    intro hmem
    obtain ⟨c, hc, hadd⟩ := List.mem_filterMap.1 hmem
    exact ⟨c, hc, .inl hadd⟩
  cases hsince with
  | never => exact h.elim (by simp) hadded
  | last before hlast =>
    rcases h with h | h
    · exact ⟨_, by simp, .inr ⟨base, hlast, h⟩⟩
    · obtain ⟨c, hc, hgives⟩ := hadded h
      exact ⟨c, by simp [hc], hgives⟩

/-! ### What the records are -/

/-- What a command gives is inserted after a check, or decoded. -/
lemma Gives.elim {r : Record} (h : c.Gives schema r) :
    (c = insert r ∧ schema.Admits r) ∨ ∃ tree, schema.decodeRecord tree = .ok r := by
  rcases h with hadd | ⟨records, hload, hmem⟩
  · cases c with
    | insert record =>
      obtain ⟨_, hcheck, rfl⟩ := Option.map_eq_some_iff.1 hadd
      have hvalid := toOption_eq_some_iff.1 hcheck
      exact .inl ⟨rfl, RecordSchema.validateRecord_eq_ok_iff.1 hvalid⟩
    | insertTree tree => exact .inr ⟨tree, toOption_eq_some_iff.1 hadd⟩
    | insertJson text =>
      obtain ⟨tree, -, htree⟩ := Option.bind_eq_some_iff.1 hadd
      exact .inr ⟨tree, toOption_eq_some_iff.1 htree⟩
    | _ => cases hadd
  · cases c with
    | load text =>
      obtain ⟨d, hd, rfl⟩ := Option.map_eq_some_iff.1 hload
      obtain ⟨-, trees, -, hall⟩ := Dataset.ofJson_eq_ok_iff.1 (toOption_eq_some_iff.1 hd)
      obtain ⟨tree, -, htree⟩ := exists_of_mem_mapOk (mapOk_eq_ok_iff.2 hall) hmem
      exact .inr ⟨tree, htree⟩
    | _ => cases hload

lemma run_admits {r : Record} (h : r ∈ (run schema commands).records) : schema.Admits r := by
  obtain ⟨c, -, hgives⟩ := exists_gives_of_mem_run h
  rcases hgives.elim with ⟨-, hadmits⟩ | ⟨tree, hdec⟩
  · exact hadmits
  · exact RecordSchema.admits_of_decodeRecord hdec

/-- Decoded records have no NaN to sort by. -/
lemma run_not_sortsNaN (hi : ∀ r, insert r ∉ commands) {r : Record}
    (h : r ∈ (run schema commands).records) (q : Query) : ¬q.SortsNaN r := by
  rintro ⟨s, -, x, hx, hnan⟩
  obtain ⟨c, hc, hgives⟩ := exists_gives_of_mem_run h
  rcases hgives.elim with ⟨rfl, -⟩ | ⟨tree, hdec⟩
  · exact hi r hc
  · have hfin := RecordSchema.finite_of_decodeRecord hdec hx x (by simp [Value.leaves])
    rw [Binary64.isNaN_eq_false_of_isFinite hfin] at hnan
    cases hnan

end Command

open Command in
/-- **Datasets over runs.** After any commands the dataset has the schema that it began with and
its records validate. They are those of the last document loaded and, after them in order, those
added since; a document is loaded whole or, from its first fault on, not at all. Commands that
fail and selections change nothing. Without records inserted as they are, every query that is
built against the schema can be selected. -/
theorem dataset_run (schema : RecordSchema) (commands : List Command) :
    (run schema commands).schema = schema ∧
    (∀ r ∈ (run schema commands).records, schema.validateRecord r = .ok ()) ∧
    (∃ base after, SinceLoad schema commands base after ∧
      (run schema commands).records = base ++ after.filterMap (added? schema)) ∧
    (∀ c : Command, c.selects = false →
      ((∃ out d, (c.step schema).run (run schema commands) = .ok out d) ↔
        (∃ records, c.loaded? schema = some records) ∨ ∃ r, c.added? schema = some r)) ∧
    (∀ (c : Command) e d, (c.step schema).run (run schema commands) = .error e d →
      d = run schema commands) ∧
    (∀ c : Command, c.selects = true → ∀ out d,
      (c.step schema).run (run schema commands) = .ok out d → d = run schema commands) ∧
    (∀ text d, Dataset.ofJson schema text = .ok d ↔ d.schema = schema ∧ ∃ trees,
      (Json.parse? text).bind Json.asArray? = some trees ∧
        List.Forall₂ (fun tree r => schema.decodeRecord tree = .ok r) trees d.records) ∧
    (∀ text e, Dataset.ofJson schema text = .error e ↔
      ((Json.parse? text).bind Json.asArray? = none ∧ e = .malformed) ∨
      ∃ trees fault, (Json.parse? text).bind Json.asArray? = some trees ∧
        FirstFault schema.decodeRecord trees fault ∧ e = .query fault) ∧
    ((∀ r, insert r ∉ commands) → ∀ (clauses : QueryClauses) (q : Query),
      clauses.build schema = .ok q → ∃ out, (run schema commands).select q = .ok out) := by
  have hschema := run_schema schema commands
  refine ⟨hschema, fun r h => ?_, run_records schema commands,
    fun c hc => step_eq_ok_iff hschema hc, fun c e d => eq_of_step_eq_error hschema,
    fun c hc out d => eq_of_selects hschema hc,
    fun _ _ => Dataset.ofJson_eq_ok_iff, fun _ _ => Dataset.ofJson_eq_error_iff, ?_⟩
  · exact RecordSchema.validateRecord_eq_ok_iff.2 (run_admits h)
  · intro hi clauses q hq
    have hadmits : ∀ r ∈ (run schema commands).records, schema.Admits r := fun _ => run_admits
    have hnan : ∀ r ∈ q.accepted (run schema commands).records, ¬q.SortsNaN r := fun r h =>
      run_not_sortsNaN hi (Query.mem_accepted.1 h).1 q
    have hout := ((QueryClauses.wellBound_of_build hq).apply_eq_ok_iff hadmits).2 ⟨hnan, rfl⟩
    exact ⟨_, by rw [Dataset.select, hout, Dataset.liftQuery]⟩

end RecordQuery
