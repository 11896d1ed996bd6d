import PackageModel.Proofs.Document.Arranged
import PackageModel.Proofs.Grammar.Equations
import PackageModel.Proofs.Reading.Reads
import PackageModel.Reading.Document

/-!
# PackageModel.Proofs.Reading.Sound

What is read is derivable.  Each program that reads a rule gives back the node of a plain
derivation of the tokens that it takes, in canonical order where the rule has one.
-/

namespace PackageModel

open Reading Stretch
open Production hiding some optional rule comment many identifier mark bracketed titled called
  interface commaList

/-! ## Uses of types -/

/-- Where there is no prefix, the next token is none of the keywords that start one. -/
theorem Prefix.read_reads : Prefix.read.Reads fun w w' q =>
    Maybe (Plain .qualifier) w w' q ∧
      (q = none → ∀ i, w.head? = some (.name i) → i ∉ Prefix.words) := by
  intro w w' o h
  obtain ⟨o₁, w₁, ho₁, h₁⟩ := of_bind h
  rcases taken_reads _ _ ho₁ with ⟨l, m, rfl, hl, hm, rfl⟩ | ⟨rfl, rfl⟩
  · obtain ⟨rfl, rfl⟩ := of_done h₁
    obtain rfl := accepts_fixed hl
    obtain rfl := accepts_fixed hm
    exact ⟨.present (derives_qualifier.2 .array), nofun⟩
  obtain ⟨b, w₂, hb, h₂⟩ := of_bind h₁
  cases keyword?_reads _ hb with
  | present =>
    obtain ⟨_, w₃, hl, h₃⟩ := of_bind h₂
    obtain ⟨k, w₄, hk, h₄⟩ := of_bind h₃
    obtain ⟨_, w₅, hr, h₅⟩ := of_bind h₄
    obtain ⟨rfl, rfl⟩ := of_done h₅
    obtain rfl := mark_reads _ _ hl
    obtain rfl := identifier_reads _ hk
    obtain rfl := mark_reads _ _ hr
    exact ⟨.present (derives_qualifier.2 .map), nofun⟩
  | absent hmap =>
    obtain ⟨c, w₃, hc, h₃⟩ := of_bind h₂
    cases keyword?_reads _ hc with
    | present =>
      obtain ⟨rfl, rfl⟩ := of_done h₃
      exact ⟨.present (derives_qualifier.2 .channel), nofun⟩
    | absent hchan =>
      obtain ⟨o₂, w₄, ho₂, h₄⟩ := of_bind h₃
      obtain ⟨rfl, rfl⟩ := of_done h₄
      have hword : ∀ i, w.head? = some (.name i) → i ∉ Prefix.words := by
        intro i hi
        rw [hi] at hmap hchan
        simpa [words, Lexeme.name] using And.intro hmap hchan
      rcases taken_reads _ _ ho₂ with ⟨l, m, rfl, hl, hm, rfl⟩ | ⟨rfl, rfl⟩
      · obtain rfl := accepts_fixed hm
        rw [accepts_kind hl] at hword ⊢
        exact ⟨.present (derives_qualifier.2 (.aliased (hword _ rfl))), nofun⟩
      · exact ⟨.absent, fun _ => hword⟩

/-- A name is read, but without a prefix there may be none. -/
theorem Abstraction.readName_reads (q : Option Prefix) :
    (readName q).Reads fun w w' o =>
      Maybe (fun w w' i => w = .name i :: w') w w' o ∧ (o = none → q = none) := by
  intro w w' o h
  cases q with
  | none =>
    rcases not_reads _ _ h with ⟨l, rfl, hl, rfl⟩ | ⟨rfl, rfl⟩
    · rw [accepts_kind hl]
      exact ⟨.present rfl, fun _ => rfl⟩
    · exact ⟨.absent, fun _ => rfl⟩
  | some q =>
    obtain ⟨i, w₁, hi, h₁⟩ := of_bind h
    obtain ⟨rfl, rfl⟩ := of_done h₁
    exact ⟨.present (identifier_reads _ hi), nofun⟩

/-- An abstraction that is read is one of the grammar; without a prefix its name is no word that
starts one, since that would have been read as a prefix. -/
theorem Abstraction.read_reads (n : Nat) :
    (Abstraction.read n).Reads (Maybe (Plain .abstraction)) := by
  induction n with
  | zero =>
    intro w w' o h
    obtain ⟨rfl, rfl⟩ := of_done h
    exact .absent
  | succ n ih =>
    intro w w' o h
    obtain ⟨q, w₁, hq, h₁⟩ := of_bind h
    obtain ⟨o₁, w₂, ho₁, h₂⟩ := of_bind h₁
    obtain ⟨hq, hword⟩ := Prefix.read_reads hq
    obtain ⟨hname, hnone⟩ := readName_reads q ho₁
    cases hname with
    | absent =>
      obtain ⟨rfl, rfl⟩ := of_done h₂
      obtain rfl := hnone rfl
      cases hq
      exact .absent
    | @present _ _ i hi =>
      obtain ⟨as, w₃, has, h₃⟩ := of_bind h₂
      obtain ⟨rfl, rfl⟩ := of_done h₃
      subst hi
      have harguments : (commaList (Abstraction.read n) n).Reads (Maybe (Plain .arguments)) :=
        (commaList_reads ih n).present derives_arguments.2
      refine .present (derives_abstraction.2 ⟨w₂, hq, ?_, bracketed_reads harguments _ _ has⟩)
      rintro rfl
      cases hq
      exact hword rfl i rfl

/-- A parameter that is read is one of the grammar. -/
theorem Parameter.read_reads (n : Nat) : (Parameter.read n).Reads (Maybe (Plain .parameter)) := by
  intro w w' o h
  obtain ⟨i, w₁, hi, h₁⟩ := of_bind h
  cases identifier?_reads hi with
  | absent =>
    obtain ⟨rfl, rfl⟩ := of_done h₁
    exact .absent
  | present hw =>
    obtain ⟨a, w₂, ha, h₂⟩ := of_bind h₁
    obtain ⟨rfl, rfl⟩ := of_done h₂
    exact .present (derives_parameter.2
      ⟨w₁, hw, required_reads (Abstraction.read_reads n) _ _ ha⟩)

/-- Parameters that are read are a list of the grammar. -/
theorem Parameter.readList_reads (n : Nat) :
    (Parameter.readList n).Reads (Maybe (Plain .parameters)) :=
  (commaList_reads (read_reads n) n).present derives_parameters.2

/-- A result that is read is one of the grammar. -/
theorem Result.read_reads (n : Nat) : (Result.read n).Reads (Maybe (Plain .result)) := by
  intro w w' o h
  obtain ⟨o₁, w₁, ho₁, h₁⟩ := of_bind h
  cases Abstraction.read_reads n ho₁ with
  | present ha =>
    obtain ⟨rfl, rfl⟩ := of_done h₁
    exact .present (derives_result.2 (.abstraction ha))
  | absent =>
    obtain ⟨b, w₂, hb, h₂⟩ := of_bind h₁
    cases mark?_reads _ hb with
    | absent =>
      obtain ⟨rfl, rfl⟩ := of_done h₂
      exact .absent
    | present =>
      obtain ⟨ps, w₃, hps, h₃⟩ := of_bind h₂
      obtain ⟨_, w₄, hr, h₄⟩ := of_bind h₃
      obtain ⟨rfl, rfl⟩ := of_done h₄
      obtain rfl := mark_reads _ _ hr
      exact .present (derives_result.2
        (.parameters (required_reads (Parameter.readList_reads n) _ _ hps)))

/-! ## Types -/

/-- A declaration that is read is one of the grammar. -/
theorem Declaration.read_reads (n : Nat) :
    (Declaration.read n).Reads (Maybe (Plain .declaration)) := by
  intro w w' o h
  obtain ⟨o₁, w₁, ho₁, h₁⟩ := of_bind h
  cases kind?_reads .comment ho₁ with
  | absent =>
    obtain ⟨rfl, rfl⟩ := of_done h₁
    exact .absent
  | present hc =>
    obtain ⟨_, w₂, ht, h₂⟩ := of_bind h₁
    obtain ⟨i, w₃, hi, h₃⟩ := of_bind h₂
    obtain ⟨ps, w₄, hps, h₄⟩ := of_bind h₃
    obtain ⟨rfl, rfl⟩ := of_done h₄
    obtain rfl := keyword_reads _ _ ht
    obtain rfl := identifier_reads _ hi
    exact .present (derives_declaration.2
      ⟨w₃, hc, bracketed_reads (Parameter.readList_reads n) _ _ hps⟩)

/-- The values that are read are those of an enumeration of the grammar. -/
theorem Values.read_reads (n : Nat) : (Values.read n).Reads (Maybe (Plain .values)) := by
  intro w w' o h
  obtain ⟨o₁, w₁, ho₁, h₁⟩ := of_bind h
  cases identifier?_reads ho₁ with
  | absent =>
    obtain ⟨rfl, rfl⟩ := of_done h₁
    exact .absent
  | present hi =>
    obtain ⟨a, w₂, ha, h₂⟩ := of_bind h₁
    obtain ⟨_, w₃, hm, h₃⟩ := of_bind h₂
    obtain ⟨_, w₄, hw, h₄⟩ := of_bind h₃
    obtain ⟨is, w₅, his, h₅⟩ := of_bind h₄
    obtain ⟨rfl, rfl⟩ := of_done h₅
    obtain rfl := mark_reads _ _ hm
    obtain rfl := keyword_reads _ _ hw
    have habstraction := required_reads (Abstraction.read_reads n) _ _ ha
    exact .present (derives_values.2
      ⟨w₄, derives_parameter.2 ⟨w₁, hi, habstraction⟩, many_reads identifier?_reads n his⟩)

/-- An enumeration that is read is one of the grammar. -/
theorem Values.readEnumeration_reads (n : Nat) :
    (readEnumeration n).Reads (Maybe (Plain .enumeration)) := by
  intro w w' o h
  obtain ⟨b, w₁, hb, h₁⟩ := of_bind h
  cases keyword?_reads _ hb with
  | absent =>
    obtain ⟨rfl, rfl⟩ := of_done h₁
    exact .absent
  | present =>
    obtain ⟨_, w₂, hl, h₂⟩ := of_bind h₁
    obtain ⟨v, w₃, hv, h₃⟩ := of_bind h₂
    obtain ⟨_, w₄, hr, h₄⟩ := of_bind h₃
    obtain ⟨rfl, rfl⟩ := of_done h₄
    obtain rfl := mark_reads _ _ hl
    obtain rfl := mark_reads _ _ hr
    exact .present (derives_enumeration.2
      ⟨w₂, rfl, required_reads (Values.read_reads n) _ _ hv⟩)

/-- A specialization that is read is one of the grammar. -/
theorem Specialization.read_reads (n : Nat) :
    (Specialization.read n).Reads (Maybe (Plain .specialization)) := by
  intro w w' o h
  obtain ⟨o₁, w₁, ho₁, h₁⟩ := of_bind h
  cases Declaration.read_reads n ho₁ with
  | absent =>
    obtain ⟨rfl, rfl⟩ := of_done h₁
    exact .absent
  | present hd =>
    obtain ⟨a, w₂, ha, h₂⟩ := of_bind h₁
    obtain ⟨e, w₃, he, h₃⟩ := of_bind h₂
    obtain ⟨rfl, rfl⟩ := of_done h₃
    exact .present (derives_specialization.2 ⟨w₁, w₂, hd,
      required_reads (Abstraction.read_reads n) _ _ ha, Values.readEnumeration_reads n he⟩)

/-- A functional that is read is one of the grammar. -/
theorem Functional.read_reads (n : Nat) :
    (Functional.read n).Reads (Maybe (Plain .functional)) := by
  intro w w' o h
  obtain ⟨o₁, w₁, ho₁, h₁⟩ := of_bind h
  cases Declaration.read_reads n ho₁ with
  | absent =>
    obtain ⟨rfl, rfl⟩ := of_done h₁
    exact .absent
  | present hd =>
    obtain ⟨_, w₂, hf, h₂⟩ := of_bind h₁
    obtain ⟨_, w₃, hl, h₃⟩ := of_bind h₂
    obtain ⟨ps, w₄, hps, h₄⟩ := of_bind h₃
    obtain ⟨_, w₅, hr, h₅⟩ := of_bind h₄
    obtain ⟨r, w₆, hres, h₆⟩ := of_bind h₅
    obtain ⟨rfl, rfl⟩ := of_done h₆
    obtain rfl := keyword_reads _ _ hf
    obtain rfl := mark_reads _ _ hl
    obtain rfl := mark_reads _ _ hr
    exact .present (derives_functional.2 ⟨w₃, w₅, hd,
      orEmpty_reads (Parameter.readList_reads n) hps,
      required_reads (Result.read_reads n) _ _ hres⟩)

/-- A section that is left out is empty. -/
theorem section_reads {α : Type} {R : Stretch α} {S : Stretch (List α)} {item : Reading (Option α)}
    (hitem : item.Reads (Maybe R)) {note : String}
    (h : ∀ {w w' as}, Titled note R w w' as → S w w' as) (expected : String)
    (rules : List Rule) (n : Nat) :
    (orEmpty (titled note item expected rules n)).Reads (OrEmpty S) :=
  orEmpty_reads ((titled_reads hitem note expected rules n).present h)

/-- A section is read as it stands and then sorted. -/
theorem sorted_reads {α : Type} [Ranked α] {R : Stretch α} {S : Stretch (List α)}
    {item : Reading (Option α)} (hitem : item.Reads (Maybe R)) {note : String}
    (h : ∀ {w w' as}, Titled note R w w' as → S w w' as) (expected : String)
    (rules : List Rule) (n : Nat) :
    (sorted note item expected rules n).Reads (Via canonicalSort (OrEmpty S)) := by
  intro w w' as hs
  obtain ⟨bs, w₁, hbs, h₁⟩ := of_bind hs
  obtain ⟨rfl, rfl⟩ := of_done h₁
  exact ⟨bs, rfl, section_reads hitem h _ _ n hbs⟩

/-- Types that are read are types of the grammar with both sections in canonical order. -/
theorem Types.read_reads (n : Nat) :
    (Types.read n).Reads (Maybe (Via Types.arranged (Plain .types))) := by
  intro w w' o h
  obtain ⟨b, w₁, hb, h₁⟩ := of_bind h
  cases note?_reads _ hb with
  | absent =>
    obtain ⟨rfl, rfl⟩ := of_done h₁
    exact .absent
  | present =>
    obtain ⟨ss, w₂, hss, h₂⟩ := of_bind h₁
    obtain ⟨fs, w₃, hfs, h₃⟩ := of_bind h₂
    obtain ⟨rfl, rfl⟩ := of_done h₃
    obtain ⟨ss, rfl, hss'⟩ :=
      sorted_reads (Specialization.read_reads n) derives_specializations.2 _ _ n hss
    obtain ⟨fs, rfl, hfs'⟩ :=
      sorted_reads (Functional.read_reads n) derives_functionals.2 _ _ n hfs
    exact .present ⟨⟨ss, fs⟩, rfl, derives_types.2 ⟨w₁, w₂, rfl, hss', hfs'⟩⟩

/-! ## Members of interfaces -/

/-- A called name that is read is one of the grammar. -/
theorem called_reads (rules : List Rule) (n : Nat) :
    (called rules n).Reads (Maybe fun w w' (i, ps) =>
      Called (OrEmpty (Plain .parameters)) i w w' ps) := by
  intro w w' o h
  obtain ⟨o₁, w₁, ho₁, h₁⟩ := of_bind h
  cases identifier?_reads ho₁ with
  | absent =>
    obtain ⟨rfl, rfl⟩ := of_done h₁
    exact .absent
  | present hi =>
    obtain ⟨_, w₂, hl, h₂⟩ := of_bind h₁
    obtain ⟨ps, w₃, hps, h₃⟩ := of_bind h₂
    obtain ⟨_, w₄, hr, h₄⟩ := of_bind h₃
    obtain ⟨rfl, rfl⟩ := of_done h₄
    obtain rfl := mark_reads _ _ hl
    obtain rfl := mark_reads _ _ hr
    subst hi
    exact .present (.mk (orEmpty_reads (Parameter.readList_reads n) hps))

/-- A constant that is read is one of the grammar. -/
theorem Constant.read_reads (n : Nat) : (Constant.read n).Reads (Maybe (Plain .constant)) := by
  intro w w' o h
  obtain ⟨o₁, w₁, ho₁, h₁⟩ := of_bind h
  cases identifier?_reads ho₁ with
  | absent =>
    obtain ⟨rfl, rfl⟩ := of_done h₁
    exact .absent
  | present hi =>
    obtain ⟨_, w₂, hl, h₂⟩ := of_bind h₁
    obtain ⟨_, w₃, hr, h₃⟩ := of_bind h₂
    obtain ⟨a, w₄, ha, h₄⟩ := of_bind h₃
    obtain ⟨rfl, rfl⟩ := of_done h₄
    obtain rfl := mark_reads _ _ hl
    obtain rfl := mark_reads _ _ hr
    exact .present (derives_constant.2
      ⟨w₃, hi, required_reads (Abstraction.read_reads n) _ _ ha⟩)

/-- A constructor that is read is one of the grammar. -/
theorem Constructor.read_reads (n : Nat) :
    (Constructor.read n).Reads (Maybe (Plain .constructor)) := by
  intro w w' o h
  obtain ⟨o₁, w₁, ho₁, h₁⟩ := of_bind h
  cases called_reads _ n ho₁ with
  | absent =>
    obtain ⟨rfl, rfl⟩ := of_done h₁
    exact .absent
  | present hc =>
    obtain ⟨a, w₂, ha, h₂⟩ := of_bind h₁
    obtain ⟨rfl, rfl⟩ := of_done h₂
    exact .present (derives_constructor.2
      ⟨w₁, hc, required_reads (Abstraction.read_reads n) _ _ ha⟩)

/-- A function that is read is one of the grammar. -/
theorem Function.read_reads (n : Nat) : (Function.read n).Reads (Maybe (Plain .function)) := by
  intro w w' o h
  obtain ⟨o₁, w₁, ho₁, h₁⟩ := of_bind h
  cases called_reads _ n ho₁ with
  | absent =>
    obtain ⟨rfl, rfl⟩ := of_done h₁
    exact .absent
  | present hc =>
    obtain ⟨r, w₂, hr, h₂⟩ := of_bind h₁
    obtain ⟨rfl, rfl⟩ := of_done h₂
    exact .present (derives_function.2
      ⟨w₁, hc, required_reads (Result.read_reads n) _ _ hr⟩)

/-- A method that is read is one of the grammar. -/
theorem Method.read_reads (n : Nat) : (Method.read n).Reads (Maybe (Plain .method)) := by
  intro w w' o h
  obtain ⟨o₁, w₁, ho₁, h₁⟩ := of_bind h
  cases called_reads _ n ho₁ with
  | absent =>
    obtain ⟨rfl, rfl⟩ := of_done h₁
    exact .absent
  | present hc =>
    obtain ⟨r, w₂, hr, h₂⟩ := of_bind h₁
    obtain ⟨rfl, rfl⟩ := of_done h₂
    exact .present (derives_method.2 ⟨w₁, hc, Result.read_reads n hr⟩)

/-- An attribute that is read is one of the grammar. -/
theorem Attribute.read_reads (n : Nat) :
    (Attribute.read n).Reads (Maybe (Plain .attributeMethod)) := by
  intro w w' o h
  obtain ⟨o₁, w₁, ho₁, h₁⟩ := of_bind h
  cases identifier?_reads ho₁ with
  | absent =>
    obtain ⟨rfl, rfl⟩ := of_done h₁
    exact .absent
  | present hi =>
    obtain ⟨_, w₂, hl, h₂⟩ := of_bind h₁
    obtain ⟨p, w₃, hp, h₃⟩ := of_bind h₂
    obtain ⟨_, w₄, hr, h₄⟩ := of_bind h₃
    obtain ⟨a, w₅, ha, h₅⟩ := of_bind h₄
    obtain ⟨rfl, rfl⟩ := of_done h₅
    obtain rfl := mark_reads _ _ hl
    obtain rfl := mark_reads _ _ hr
    subst hi
    exact .present (derives_attribute.2
      ⟨w₄, .mk (Parameter.read_reads n hp), Abstraction.read_reads n ha⟩)

/-! ## Interfaces -/

/-- An interface that is read is a declaration in front of what its body reads between braces. -/
theorem interface_reads {α : Type} {R : Stretch α} {body : Reading α} (hbody : body.Reads R)
    (rules : List Rule) (n : Nat) :
    (interface rules body n).Reads (Maybe fun w w' (d, b) => ∃ w₁,
      Plain .declaration w (.name "interface" :: .mark "\x7b" :: w₁) d ∧
      R w₁ (.mark "\x7d" :: w') b) := by
  intro w w' o h
  obtain ⟨o₁, w₁, ho₁, h₁⟩ := of_bind h
  cases Declaration.read_reads n ho₁ with
  | absent =>
    obtain ⟨rfl, rfl⟩ := of_done h₁
    exact .absent
  | present hd =>
    obtain ⟨_, w₂, hi, h₂⟩ := of_bind h₁
    obtain ⟨_, w₃, hl, h₃⟩ := of_bind h₂
    obtain ⟨b, w₄, hb, h₄⟩ := of_bind h₃
    obtain ⟨_, w₅, hr, h₅⟩ := of_bind h₄
    obtain ⟨rfl, rfl⟩ := of_done h₅
    obtain rfl := keyword_reads _ _ hi
    obtain rfl := mark_reads _ _ hl
    obtain rfl := mark_reads _ _ hr
    exact .present ⟨w₃, hd, hbody hb⟩

/-- The methods of an interface are those of the grammar in canonical order. -/
theorem Method.readSection_reads (n : Nat) :
    (readSection n).Reads (Via canonicalSort (OrEmpty (Plain .methods))) :=
  sorted_reads (read_reads n) derives_methods.2 _ _ n

/-- An aspect that is read is one of the grammar with its methods in order. -/
theorem Aspect.read_reads (n : Nat) :
    (Aspect.read n).Reads (Maybe (Via Aspect.arranged (Plain .aspect))) := by
  intro w w' o h
  obtain ⟨o₁, w₁, ho₁, h₁⟩ := of_bind h
  cases interface_reads (Method.readSection_reads n) _ n ho₁ with
  | absent =>
    obtain ⟨rfl, rfl⟩ := of_done h₁
    exact .absent
  | @present _ _ db hdb =>
    obtain ⟨d, ms⟩ := db
    obtain ⟨rfl, rfl⟩ := of_done h₁
    obtain ⟨w₂, hd, ms, rfl, hms⟩ := hdb
    exact .present ⟨⟨d, ms⟩, rfl, derives_aspect.2 ⟨w₂, hd, hms⟩⟩

/-- A class that is read is one of the grammar with its constructors and functions in order;
constants stay as they are. -/
theorem Class.read_reads (n : Nat) :
    (Class.read n).Reads (Maybe (Via Class.arranged (Plain .classInterface))) := by
  intro w w' o h
  obtain ⟨o₁, w₁, ho₁, h₁⟩ := of_bind h
  have hbody : (readBody n).Reads fun w w' (cs, ns, fs) => ∃ w₁ w₂,
      OrEmpty (Plain .constants) w w₁ cs ∧
      Via canonicalSort (OrEmpty (Plain .constructors)) w₁ w₂ ns ∧
      Via canonicalSort (OrEmpty (Plain .functions)) w₂ w' fs := by
    intro w w' b h
    obtain ⟨cs, w₁, hcs, h₁⟩ := of_bind h
    obtain ⟨ns, w₂, hns, h₂⟩ := of_bind h₁
    obtain ⟨fs, w₃, hfs, h₃⟩ := of_bind h₂
    obtain ⟨rfl, rfl⟩ := of_done h₃
    exact ⟨w₁, w₂, section_reads (Constant.read_reads n) derives_constants.2 _ _ n hcs,
      sorted_reads (Constructor.read_reads n) derives_constructors.2 _ _ n hns,
      sorted_reads (Function.read_reads n) derives_functions.2 _ _ n hfs⟩
  cases interface_reads hbody _ n ho₁ with
  | absent =>
    obtain ⟨rfl, rfl⟩ := of_done h₁
    exact .absent
  | @present _ _ db hdb =>
    obtain ⟨d, cs, ns, fs⟩ := db
    obtain ⟨rfl, rfl⟩ := of_done h₁
    obtain ⟨w₂, hd, w₃, w₄, hcs, ⟨ns, rfl, hns⟩, ⟨fs, rfl, hfs⟩⟩ := hdb
    exact .present ⟨⟨d, cs, ns, fs⟩, rfl, derives_class.2 ⟨w₂, w₃, w₄, hd, hcs, hns, hfs⟩⟩

/-- An instance that is read is one of the grammar with its methods in order; attributes and
abstractions stay as they are. -/
theorem Instance.read_reads (n : Nat) :
    (Instance.read n).Reads (Maybe (Via Instance.arranged (Plain .instanceInterface))) := by
  intro w w' o h
  obtain ⟨o₁, w₁, ho₁, h₁⟩ := of_bind h
  have hbody : (readBody n).Reads fun w w' (ts, as, ms) => ∃ w₁ w₂,
      OrEmpty (Plain .attributes) w w₁ ts ∧ OrEmpty (Plain .abstractions) w₁ w₂ as ∧
      Via canonicalSort (OrEmpty (Plain .methods)) w₂ w' ms := by
    intro w w' b h
    obtain ⟨ts, w₁, hts, h₁⟩ := of_bind h
    obtain ⟨as, w₂, has, h₂⟩ := of_bind h₁
    obtain ⟨ms, w₃, hms, h₃⟩ := of_bind h₂
    obtain ⟨rfl, rfl⟩ := of_done h₃
    exact ⟨w₁, w₂, section_reads (Attribute.read_reads n) derives_attributes.2 _ _ n hts,
      section_reads (Abstraction.read_reads n) derives_abstractions.2 _ _ n has,
      Method.readSection_reads n hms⟩
  cases interface_reads hbody _ n ho₁ with
  | absent =>
    obtain ⟨rfl, rfl⟩ := of_done h₁
    exact .absent
  | @present _ _ db hdb =>
    obtain ⟨d, ts, as, ms⟩ := db
    obtain ⟨rfl, rfl⟩ := of_done h₁
    obtain ⟨w₂, hd, w₃, w₄, hts, has, ms, rfl, hms⟩ := hdb
    exact .present ⟨⟨d, ts, as, ms⟩, rfl, derives_instance.2 ⟨w₂, w₃, w₄, hd, hts, has, hms⟩⟩

/-- A section whose items are put in order themselves. -/
theorem sorted_via_reads {α : Type} [Ranked α] {R : Stretch α} {S : Stretch (List α)} {f : α → α}
    {item : Reading (Option α)} (hitem : item.Reads (Maybe (Via f R))) {note : String}
    (h : ∀ {w w' as}, Titled note R w w' as → S w w' as) (expected : String)
    (rules : List Rule) (n : Nat) :
    (sorted note item expected rules n).Reads
      (Via (fun as => canonicalSort (as.map f)) (OrEmpty S)) := by
  intro w w' bs hs
  obtain ⟨cs, rfl, hcs⟩ := sorted_reads hitem Titled.of_via expected rules n hs
  obtain ⟨as, rfl, has⟩ := OrEmpty.of_via rfl hcs
  cases has with
  | absent => exact ⟨[], rfl, .absent⟩
  | present has => exact ⟨as, rfl, .present (h has)⟩

/-- Interfaces that are read are interfaces of the grammar with their sections in order, and what is
in them as well. -/
theorem Interfaces.read_reads (n : Nat) :
    (Interfaces.read n).Reads (Maybe (Via Interfaces.arranged (Plain .interfaces))) := by
  intro w w' o h
  obtain ⟨b, w₁, hb, h₁⟩ := of_bind h
  cases note?_reads _ hb with
  | absent =>
    obtain ⟨rfl, rfl⟩ := of_done h₁
    exact .absent
  | present =>
    obtain ⟨as, w₂, has, h₂⟩ := of_bind h₁
    obtain ⟨cs, w₃, hcs, h₃⟩ := of_bind h₂
    obtain ⟨is, w₄, his, h₄⟩ := of_bind h₃
    obtain ⟨rfl, rfl⟩ := of_done h₄
    obtain ⟨as, rfl, has'⟩ := sorted_via_reads (Aspect.read_reads n) derives_aspects.2 _ _ n has
    obtain ⟨cs, rfl, hcs'⟩ := sorted_via_reads (Class.read_reads n) derives_classes.2 _ _ n hcs
    obtain ⟨is, rfl, his'⟩ :=
      sorted_via_reads (Instance.read_reads n) derives_instances.2 _ _ n his
    exact .present ⟨⟨as, cs, is⟩, rfl, derives_interfaces.2 ⟨w₁, w₂, w₃, rfl, has', hcs', his'⟩⟩

/-! ## Documents -/

/-- A header that is read is one of the grammar. -/
theorem Header.read_reads : Header.read.Reads (Maybe (Plain .header)) := by
  intro w w' o h
  obtain ⟨o₁, w₁, ho₁, h₁⟩ := of_bind h
  cases kind?_reads .comment ho₁ with
  | absent =>
    obtain ⟨rfl, rfl⟩ := of_done h₁
    exact .absent
  | present hc =>
    obtain ⟨_, w₂, hp, h₂⟩ := of_bind h₁
    obtain ⟨i, w₃, hi, h₃⟩ := of_bind h₂
    obtain ⟨rfl, rfl⟩ := of_done h₃
    obtain rfl := keyword_reads _ _ hp
    obtain rfl := identifier_reads _ hi
    exact .present (derives_header.2 hc)

/-- A module that is read is one of the grammar. -/
theorem Module.read_reads : Module.read.Reads (Maybe (Plain .module)) := by
  intro w w' o h
  obtain ⟨o₁, w₁, ho₁, h₁⟩ := of_bind h
  cases identifier?_reads ho₁ with
  | absent =>
    obtain ⟨rfl, rfl⟩ := of_done h₁
    exact .absent
  | present hi =>
    obtain ⟨t, w₂, ht, h₂⟩ := of_bind h₁
    obtain ⟨rfl, rfl⟩ := of_done h₂
    obtain rfl := kind_reads .text _ ht
    exact .present (derives_module.2 hi)

/-- Imports that are read are imports of the grammar in canonical order. -/
theorem Module.readImports_reads (n : Nat) :
    (readImports n).Reads (Maybe (Via canonicalSort (Plain .imports))) := by
  intro w w' o h
  obtain ⟨b, w₁, hb, h₁⟩ := of_bind h
  cases keyword?_reads _ hb with
  | absent =>
    obtain ⟨rfl, rfl⟩ := of_done h₁
    exact .absent
  | present =>
    obtain ⟨_, w₂, hl, h₂⟩ := of_bind h₁
    obtain ⟨ms, w₃, hms, h₃⟩ := of_bind h₂
    obtain ⟨_, w₄, hr, h₄⟩ := of_bind h₃
    obtain ⟨rfl, rfl⟩ := of_done h₄
    obtain rfl := mark_reads _ _ hl
    obtain rfl := mark_reads _ _ hr
    have hmodules := (oneOrMore_reads Module.read_reads n).present derives_modules.2
    exact .present ⟨ms, rfl, derives_imports.2 ⟨w₂, rfl, orEmpty_reads hmodules hms⟩⟩

/-- A document that is read is one of the grammar with everything in it in order. -/
theorem Document.read_reads (n : Nat) :
    (Document.read n).Reads (Maybe (Via Document.arranged (Plain .document))) := by
  intro w w' o h
  obtain ⟨o₁, w₁, ho₁, h₁⟩ := of_bind h
  cases kind?_reads .comment ho₁ with
  | absent =>
    obtain ⟨rfl, rfl⟩ := of_done h₁
    exact .absent
  | @present _ _ c hc =>
    obtain ⟨h', w₂, hh, h₂⟩ := of_bind h₁
    obtain ⟨ms, w₃, hms, h₃⟩ := of_bind h₂
    obtain ⟨ts, w₄, hts, h₄⟩ := of_bind h₃
    obtain ⟨is, w₅, his, h₅⟩ := of_bind h₄
    obtain ⟨rfl, rfl⟩ := of_done h₅
    obtain ⟨ms, rfl, hms'⟩ := Maybe.of_via (Module.readImports_reads n hms)
    obtain ⟨ts, rfl, hts'⟩ := Maybe.of_via (Types.read_reads n hts)
    obtain ⟨is, rfl, his'⟩ := Maybe.of_via (Interfaces.read_reads n his)
    exact .present ⟨⟨c, h', ms, ts, is⟩, rfl, derives_document.2
      ⟨w₁, w₂, w₃, w₄, hc, required_reads Header.read_reads _ _ hh, hms', hts', his'⟩⟩

/-- A source that is read is a document and the end of the input. -/
theorem Document.readSource_reads (n : Nat) :
    (Document.readSource n).Reads (Via Document.arranged (Plain .source)) := by
  intro w w' d h
  obtain ⟨d, w₁, hd, h₁⟩ := of_bind h
  obtain ⟨v, w₂, hv, h₂⟩ := of_bind h₁
  obtain ⟨rfl, rfl⟩ := of_done h₂
  obtain ⟨d, rfl, hd'⟩ := required_reads (Document.read_reads n) _ _ hd
  obtain rfl := kind_reads .eof _ hv
  exact ⟨d, rfl, derives_source.2 ⟨v, hd'⟩⟩

end PackageModel
