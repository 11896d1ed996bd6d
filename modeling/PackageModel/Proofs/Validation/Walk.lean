import Mathlib.Data.List.Basic
import PackageModel.Proofs.Validation.Violations

/-!
# PackageModel.Proofs.Validation.Walk

What a walk finds.  A walk over some part of a document stops at the first of its violations, and
without any it records the names that are used there.  What a walk over several parts finds is what
those over the single ones do, one behind the other.
-/

namespace PackageModel

/-! ## Names in use -/

/-- Records a name that is used, at its first use. -/
def record (used : List String) (name : String) : List String :=
  if name ∈ used then used else used ++ [name]

/-- Recording names adds those that are new, each once. -/
theorem foldl_record (used names : List String) :
    names.foldl record used = used ++ (names.filter (· ∉ used)).eraseDups := by
  induction names generalizing used with
  | nil => simp
  | cons name names ih =>
    rw [List.foldl_cons, ih, record]
    split
    · next hname => simp [hname]
    · next hname => simp [hname, List.eraseDups_cons, List.filter_filter, beq_eq_decide,
        Bool.and_comm]

/-! ## Walks -/

namespace Walk

variable {w w' : Walk Unit} {used names names' : List String} {vs vs' : List Violation}

/-- The walk stops at the first of the violations; if there are none, it records the names. -/
def Finds (w : Walk Unit) (used : List String) (vs : List Violation) (names : List String) : Prop :=
  match vs with
  | [] => w.run.run used = (.ok (), names.foldl record used)
  | v :: _ => (w.run.run used).1 = .error v

/-- To do nothing is to find nothing. -/
theorem Finds.pure : Finds (pure ()) used [] [] := rfl

/-- A walk that throws finds what it throws, and nothing behind it counts. -/
theorem Finds.throw {v : Violation} : Finds (throw v) used (v :: vs) names := rfl

/-- The second walk goes on where the first one ends, if that does not stop at a violation. -/
theorem run_bind :
    (w >>= fun _ => w').run.run used = match w.run.run used with
      | (.ok (), used') => w'.run.run used'
      | (.error v, used') => (.error v, used') := by
  rw [ExceptT.run_bind, StateT.run_bind]
  rcases w.run.run used with ⟨_ | _, used'⟩ <;> rfl

/-- A walk goes on only if nothing has been found, with the uses so far on record. -/
theorem Finds.bind (h : w.Finds used vs names)
    (h' : vs = [] → w'.Finds (names.foldl record used) vs' names') :
    Finds (w >>= fun _ => w') used (vs ++ vs') (names ++ names') := by
  unfold Finds
  rw [run_bind]
  cases vs with
  | cons v vs =>
    have hrun : (w.run.run used).1 = .error v := h
    rw [List.cons_append, ← Prod.mk.eta (p := w.run.run used), hrun]
  | nil =>
    have hrun : w.run.run used = (.ok (), names.foldl record used) := h
    rw [hrun, List.nil_append, List.foldl_append]
    exact h' rfl

variable {α : Type} {as : List α} {f : α → Walk Unit} {violations : α → List Violation}
  {uses : α → List String}

/-- A loop finds what its rounds find, one after the other. -/
theorem Finds.forM (h : ∀ a ∈ as, ∀ used, (f a).Finds used (violations a) (uses a)) :
    ∀ used, Finds (as.forM f) used (as.flatMap violations) (as.flatMap uses) := by
  induction as with
  | nil => exact fun used => .pure
  | cons a as ih =>
    obtain ⟨ha, has⟩ := List.forall_mem_cons.1 h
    exact fun used => (ha used).bind fun _ => ih has _

/-! ### Checks that record nothing -/

/-- The walk stops at the first of the violations, and records nothing. -/
def Reports (w : Walk Unit) (used : List String) (vs : List Violation) : Prop :=
  w.run.run used = (firstOf vs, used)

/-- Walks that record no use report one after the other. -/
theorem Reports.bind (h : w.Reports used vs) (h' : w'.Reports used vs') :
    Reports (w >>= fun _ => w') used (vs ++ vs') := by
  unfold Reports at h h' ⊢
  rw [run_bind, h]
  cases vs with
  | nil => exact h'
  | cons v vs => rfl

/-- A loop reports what its rounds report. -/
theorem Reports.forM (h : ∀ a ∈ as, (f a).Reports used (violations a)) :
    Reports (as.forM f) used (as.flatMap violations) := by
  induction as with
  | nil => rfl
  | cons a as ih =>
    obtain ⟨ha, has⟩ := List.forall_mem_cons.1 h
    exact ha.bind (ih has)

/-- A walk that reports finds the same and uses nothing. -/
theorem Reports.finds (h : w.Reports used vs) : w.Finds used vs [] := by
  unfold Reports at h
  unfold Finds
  rw [h]
  cases vs <;> rfl

end Walk

open Walk

variable {d : Document} {current : String}

/-! ## Imported modules -/

@[simp] theorem Document.unknown_append (as bs : List String) :
    d.unknown (as ++ bs) = d.unknown as ++ d.unknown bs := by
  simp [unknown]

/-- A module is known by its alias if the document imports it. -/
theorem Catalog.hasModule_ofDocument {name : String} :
    (ofDocument d).hasModule name = true ↔ d.Imports name := by
  rw [hasModule, ofDocument, Table.keys_ofList, List.contains_iff_mem, List.mem_map]
  simp only [mem_survivors]
  exact exists_mem_lastOfKeys

namespace Document

/-- The scope of a declaration. -/
def scope (d : Document) (current : String) : Scope := ⟨.ofDocument d, current⟩

/-- A name is used unless it is that of the declaration it stands in. -/
theorem use_finds (name : String) (used : List String) :
    ((d.scope current).use name).Finds used [] ([name].filter (· ≠ current)) := by
  have hrun : ((d.scope current).use name).run.run used =
      (.ok (), if name = current ∨ name ∈ used then used else used ++ [name]) := rfl
  by_cases h : name = current
  · rw [if_pos (.inl h)] at hrun
    simpa [Finds, h] using hrun
  · simp only [h, false_or] at hrun
    simpa [Finds, h, record] using hrun

/-- A prefix is checked for its alias and uses its key. -/
theorem checkPrefix_finds (q : Option Prefix) (used : List String) :
    ((d.scope current).checkPrefix q).Finds used (d.unknown (q.bind Prefix.alias?).toList)
      ((q.bind Prefix.key?).toList.filter (· ≠ current)) := by
  rcases q with _ | _ | _ | name | key
  · exact .pure
  · exact .pure
  · exact .pure
  · by_cases h : d.Imports name
    · have hmodule : (d.scope current).catalog.hasModule name = true :=
        Catalog.hasModule_ofDocument.2 h
      simpa [Scope.checkPrefix, hmodule, Prefix.alias?, Prefix.key?, unknown, h] using .pure
    · have hmodule : ¬ (d.scope current).catalog.hasModule name = true :=
        fun hname => h (Catalog.hasModule_ofDocument.1 hname)
      simpa [Scope.checkPrefix, hmodule, Prefix.alias?, Prefix.key?, unknown, h] using .throw
  · exact use_finds key used

mutual

/-- Checking a use of a type finds the unknown aliases at any depth, and records the names. -/
theorem checkAbstraction_finds : (a : Abstraction) → (used : List String) →
    ((d.scope current).checkAbstraction a).Finds used (d.unknown a.aliases)
      (a.names.filter (· ≠ current))
  | .mk q i as, used => by
    rw [Abstraction.aliases_mk, Abstraction.names_mk, unknown_append, List.filter_append,
      Abstraction.ownNames, List.filter_append, List.append_assoc]
    exact (checkPrefix_finds q used).bind fun _ =>
      (use_finds i _).bind fun _ => checkAbstractions_finds as _

/-- The same holds for several abstractions. -/
theorem checkAbstractions_finds : (as : List Abstraction) → (used : List String) →
    ((d.scope current).checkAbstractions as).Finds used
      (d.unknown (as.flatMap Abstraction.aliases))
      ((as.flatMap Abstraction.names).filter (· ≠ current))
  | [], _ => .pure
  | a :: as, used => by
    rw [List.flatMap_cons, List.flatMap_cons, unknown_append, List.filter_append]
    exact (checkAbstraction_finds a used).bind fun _ => checkAbstractions_finds as _

end

/-! ## Parts of declarations -/

/-- In the declaration with this name, the walk checks the parts and nothing else. -/
def Checks (d : Document) (current : String) (w : Walk Unit) (parts : List Part) : Prop :=
  ∀ used, w.Finds used (parts.flatMap (·.violations d))
    ((parts.flatMap Part.names).filter (· ≠ current))

namespace Checks

variable {w w' : Walk Unit} {parts parts' : List Part}

/-- Checks one after the other check all their parts. -/
theorem append (h : d.Checks current w parts) (h' : d.Checks current w' parts') :
    d.Checks current (w >>= fun _ => w') (parts ++ parts') := by
  intro used
  rw [List.flatMap_append, List.flatMap_append, List.filter_append]
  exact (h used).bind fun _ => h' _

/-- A loop of checks checks the parts of all its items. -/
theorem forM {α : Type} {f : α → Walk Unit} {parts : α → List Part}
    (h : ∀ a, d.Checks current (f a) (parts a)) (as : List α) :
    d.Checks current (as.forM f) (as.flatMap parts) := by
  induction as with
  | nil => exact fun _ => .pure
  | cons a as ih => exact (h a).append ih

/-- Something optional is checked if it is there. -/
theorem optional {α : Type} {f : α → Walk Unit} {parts : α → List Part}
    (h : ∀ a, d.Checks current (f a) (parts a)) (o : Option α) :
    d.Checks current (o.forM f) (o.toList.flatMap parts) := by
  cases o with
  | none => exact fun _ => .pure
  | some a => simpa using h a

end Checks

/-- An abstraction is checked as a use of types. -/
theorem checkAbstraction_checks (a : Abstraction) :
    d.Checks current ((d.scope current).checkAbstraction a) [.use a] := by
  intro used
  have hfinds : ((d.scope current).checkAbstraction a).Finds used _ _ :=
    checkAbstraction_finds a used
  simpa [Part.violations, Part.faults, Part.walked, Part.names] using hfinds

/-- Each of several abstractions is checked as a use of types. -/
theorem checkAbstractions_checks (as : List Abstraction) :
    d.Checks current ((d.scope current).checkAbstractions as) (as.map .use) := by
  induction as with
  | nil => exact fun _ => .pure
  | cons a as ih => exact (checkAbstraction_checks a).append ih

/-- The types of parameters are checked in order. -/
theorem checkParameters_checks (ps : List Parameter) :
    d.Checks current ((d.scope current).checkParameters ps) (Parameter.parts ps) := by
  rw [Parameter.parts, List.map_eq_flatMap]
  exact Checks.forM (fun p => checkAbstraction_checks p.abstraction) ps

/-- The types of a result are checked in order. -/
theorem checkResult_checks (r : Result) :
    d.Checks current ((d.scope current).checkResult r) r.parts := by
  cases r with
  | abstraction value => exact checkAbstraction_checks value
  | parameters values => exact checkParameters_checks values

/-- The types of a method are checked, parameters first. -/
theorem checkMethod_checks (m : Method) :
    d.Checks current ((d.scope current).checkMethod m) m.parts :=
  (checkParameters_checks m.parameters).append (.optional checkResult_checks m.result)

/-- The types of a constructor are checked, parameters first. -/
theorem checkConstructor_checks (c : Constructor) :
    d.Checks current ((d.scope current).checkConstructor c) c.parts :=
  (checkParameters_checks c.parameters).append (checkAbstraction_checks c.abstraction)

/-- The types of a function are checked, parameters first. -/
theorem checkFunction_checks (f : Function) :
    d.Checks current ((d.scope current).checkFunction f) f.parts :=
  (checkParameters_checks f.parameters).append (checkResult_checks f.result)

/-! ## Attributes -/

/-- The words with which names may start, in the order in which they are looked for. -/
theorem ofName?_eq (a : Attribute) :
    Purpose.ofName? a.identifier =
      if a.StartsWith "Get" then some .get
      else if a.StartsWith "Set" then some .set
      else if ∃ word ∈ Attribute.questionWords, a.StartsWith word then some .ask
      else none := by
  have hstarts : Purpose.starts =
      ("Get", .get) :: ("Set", .set) :: Attribute.questionWords.map fun word => (word, .ask) := rfl
  have hword (word : String) :
      word.toList.isPrefixOf a.identifier.toList = decide (a.StartsWith word) := by
    rw [Bool.eq_iff_iff, List.isPrefixOf_iff_prefix, decide_eq_true_eq]
    rfl
  rw [Purpose.ofName?, hstarts]
  simp only [List.find?_cons, hword, List.find?_map, Function.comp_def]
  by_cases hget : a.StartsWith "Get"
  · simp [hget]
  by_cases hset : a.StartsWith "Set"
  · simp [hget, hset]
  cases hfind : Attribute.questionWords.find? fun word => a.StartsWith word with
  | none =>
    have hnone : ¬ ∃ word ∈ Attribute.questionWords, a.StartsWith word := by
      simpa using List.find?_eq_none.1 hfind
    simp [hget, hset, hnone]
  | some word =>
    have hsome : ∃ word ∈ Attribute.questionWords, a.StartsWith word :=
      ⟨word, List.mem_of_find?_eq_some hfind, by simpa using List.find?_some hfind⟩
    rw [if_neg hget, if_neg hset, if_pos hsome]
    simp [hget, hset]

/-- Checking the answer to a question stops at the first fault. -/
theorem checkBoolean_eq (i : String) (answer : Abstraction) :
    checkBoolean i answer = firstOf (Attribute.answerFaults i answer) := by
  unfold checkBoolean Attribute.answerFaults
  by_cases hprefix : answer.qualifier.isSome
  · rw [if_pos hprefix, if_pos hprefix]
    rfl
  rw [if_neg hprefix, if_neg hprefix]
  by_cases htype : answer.identifier ≠ "bool"
  · rw [if_pos htype, if_pos htype]
    rfl
  rw [if_neg htype, if_neg htype]
  simp only [List.isEmpty_iff]
  by_cases hgeneric : answer.arguments ≠ []
  · rw [if_pos hgeneric, if_pos hgeneric]
    rfl
  · rw [if_neg hgeneric, if_neg hgeneric]
    rfl

/-- The answer of a question is found faulty as the list of its faults says. -/
theorem checkAnswer_finds (i : String) (answer : Abstraction) (used : List String) :
    Finds (ExceptT.mk (pure (checkBoolean i answer))) used (Attribute.answerFaults i answer)
      [] := by
  have hreports : Reports (ExceptT.mk (pure (checkBoolean i answer))) used
      (Attribute.answerFaults i answer) := by
    rw [Reports, ← checkBoolean_eq]
    rfl
  exact hreports.finds

/-- An attribute is checked for its accesses. -/
theorem checkAttribute_checks (a : Attribute) :
    d.Checks current ((d.scope current).checkAttribute a) [.access a] := by
  intro used
  obtain ⟨i, parameter, abstraction⟩ := a
  have hname := ofName?_eq ⟨i, parameter, abstraction⟩
  simp only [Scope.checkAttribute, hname, List.flatMap_singleton, Part.violations, Part.faults,
    Part.names, Part.walked, Attribute.faults, Attribute.walked]
  by_cases hget : Attribute.StartsWith "Get" ⟨i, parameter, abstraction⟩
  · simp only [if_pos hget]
    match parameter, abstraction with
    | none, some b => simpa using checkAbstraction_finds b used
    | none, none | some _, none | some _, some _ => exact .throw
  by_cases hset : Attribute.StartsWith "Set" ⟨i, parameter, abstraction⟩
  · simp only [if_neg hget, if_pos hset]
    match parameter, abstraction with
    | some p, none =>
      simpa [Scope.checkParameter] using checkAbstraction_finds p.abstraction used
    | none, none | none, some _ | some _, some _ => exact .throw
  simp only [if_neg hget, if_neg hset]
  split_ifs
  · match parameter, abstraction with
    | none, some answer => simpa using checkAnswer_finds i answer used
    | none, none | some _, none | some _, some _ => exact .throw
  · exact .throw

/-! ## Declarations -/

/-- Checking a declaration finds what is wrong with it, and records the names that it uses. -/
def Examines (d : Document) (w : Walk Unit) (e : Entry) : Prop :=
  ∀ used, w.Finds used (e.violations d) e.uses

/-- A declaration is examined with its generic parameters in front of its body. -/
theorem checkDeclaration_examines {x : Declaration} {body : Scope → Walk Unit} {parts : List Part}
    (h : d.Checks x.identifier (body (d.scope x.identifier)) parts) (kind : Option Unused) :
    d.Examines ((Catalog.ofDocument d).checkDeclaration x body) (x.entry kind parts) :=
  (checkParameters_checks x.parameters).append h

/-- A class is examined section by section. -/
theorem checkClass_examines (c : Class) :
    d.Examines ((Catalog.ofDocument d).checkClass c) c.entry := by
  refine checkDeclaration_examines ?_ _
  rw [List.map_eq_flatMap, List.append_assoc]
  exact (Checks.forM (fun k => checkAbstraction_checks k.abstraction) c.constants).append
    ((Checks.forM checkConstructor_checks c.constructors).append
      (Checks.forM checkFunction_checks c.functions))

/-- An instance is examined section by section. -/
theorem checkInstance_examines (i : Instance) :
    d.Examines ((Catalog.ofDocument d).checkInstance i) i.entry := by
  refine checkDeclaration_examines ?_ _
  rw [List.map_eq_flatMap, List.append_assoc]
  exact (Checks.forM checkAttribute_checks i.attributes).append
    ((checkAbstractions_checks i.abstractions).append
      (Checks.forM checkMethod_checks i.methods))

/-- An aspect is examined method by method. -/
theorem checkAspect_examines (a : Aspect) :
    d.Examines ((Catalog.ofDocument d).checkAspect a) a.entry :=
  checkDeclaration_examines (.forM checkMethod_checks a.methods) _

/-- A specialization is examined with the type of its enumeration. -/
theorem checkSpecialization_examines (s : Specialization) :
    d.Examines ((Catalog.ofDocument d).checkSpecialization s) s.entry := by
  refine checkDeclaration_examines ?_ _
  rw [List.map_eq_flatMap]
  exact (checkAbstraction_checks s.abstraction).append
    (.optional (fun values => checkAbstraction_checks values.parameter.abstraction) s.enumeration)

/-- A functional is examined as a function type. -/
theorem checkFunctional_examines (f : Functional) :
    d.Examines ((Catalog.ofDocument d).checkFunctional f) f.entry :=
  checkDeclaration_examines
    ((checkParameters_checks f.parameters).append (checkResult_checks f.result)) _

end Document

end PackageModel
