import Clausewise.Failure
import Clausewise.Proofs.Value.References

/-! The written form of a value asks for no patterns under construction but those that the value refers to. -/
namespace Clausewise.Value
variable {R : Reference → Prop} {builders builders' : Nat → BuilderSummary}

-- What each form is made of shows by computation; the equations of `displayIn` are too many to rewrite with.
mutual

theorem displayIn_congr (h : ∀ id, R (.builder id) → builders' id = builders id) (outer : List (List Char)) :
    (v : Value) → v.Within R → displayIn builders' outer v = displayIn builders outer v
  | .null, _ | .undefined, _ | .bool _, _ | .number _, _ | .text _, _ | .derivedText _, _ | .kind _, _ | .bytes _, _
  | .buffer .array _, _ | .buffer .view _, _ | .buffer (.grid _) _, _ | .buffer (.released _) _, _ | .range _ _ _, _
  | .moment _ _, _ | .cls _, _ | .category _, _ | .function _, _ | .regex _, _ | .closed _ _ _, _ | .back _, _ => rfl
  | .builder id, hv => congrArg BuilderSummary.display (h id (within_builder.mp hv))
  | .sequence shape items, hv => by
    have hparts := displayAll_congr h outer items (within_sequence.mp hv)
    cases shape with
    | list | wrappedList => exact congrArg (fun parts => '[' :: commaSeparated parts ++ [']']) hparts
    | tuple => exact congrArg parenthesised hparts
    | point =>
      exact congrArg (fun parts =>
        called "Point" (commaSeparated (List.zipWith (· ++ ·) ["x=".toList, "y=".toList] parts))) hparts
    | deque => exact congrArg (fun parts => called "deque" ('[' :: commaSeparated parts ++ [']'])) hparts
  | .set frozen elements, hv => by
    have hparts := displayAll_congr h outer elements (within_set.mp hv)
    exact congrArg (fun parts : List (List Char) =>
      if parts.isEmpty then (if frozen then "frozenset()" else "set()").toList
      else
        let braced := '{' :: commaSeparated parts ++ ['}']
        if frozen then called "frozenset" braced else braced) hparts
  | .mapping shape entries, hv => by
    have hwithin := within_mapping.mp hv
    have hentries := displayEntries_congr h outer entries hwithin
    cases shape with
    | ordered =>
      exact congrArg (fun pairs => if entries.isEmpty then "OrderedDict()".toList
        else called "OrderedDict" ('[' :: commaSeparated pairs ++ [']'])) (displayPairs_congr h outer entries hwithin)
    | counter =>
      exact congrArg (fun counts => if entries.isEmpty then "Counter()".toList
        else called "Counter" ('{' :: commaSeparated (byFallingCount counts) ++ ['}']))
          (displayCounts_congr h outer entries hwithin)
    | defaulting =>
      exact congrArg (fun parts =>
        called "defaultdict" ("<class 'int'>, ".toList ++ '{' :: commaSeparated parts ++ ['}'])) hentries
    | readOnly => exact congrArg (fun parts => called "mappingproxy" ('{' :: commaSeparated parts ++ ['}'])) hentries
    | plain | wrapped => exact congrArg (fun parts => '{' :: commaSeparated parts ++ ['}']) hentries
  | .layers maps, hv =>
    congrArg (fun parts => called "ChainMap" (commaSeparated parts))
      (displayAll_congr h outer maps (within_layers.mp hv).2)
  | .object _ c own, hv =>
    congrArg (fun parts => match c.traits.display with
      | .opaqueObject => '<' :: c.qualifiedName ++ " object at 0x?>".toList
      | .attributes => called c.name (commaSeparated parts)) (displayAttributes_congr h outer own (within_object.mp hv))
  | .fault _ c arguments _, hv =>
    congrArg (fun parts => called c.name (commaSeparated parts))
      (displayAll_congr h outer arguments (within_fault.mp hv).1)
  | .matcher m, hv => displayMatcher_congr h outer m hv
  | .constant v, hv =>
    congrArg (fun shown => called "Constant" ("value=".toList ++ shown)) (displayIn_congr h outer v hv)
  | .cyclic body, hv => displayIn_congr h (ellipsis body :: outer) body hv

theorem displayAll_congr (h : ∀ id, R (.builder id) → builders' id = builders id) (outer : List (List Char)) :
    (vs : List Value) → (∀ v ∈ vs, v.Within R) → displayAll builders' outer vs = displayAll builders outer vs
  | [], _ => rfl
  | v :: vs, hvs => by
    obtain ⟨hv, hrest⟩ := List.forall_mem_cons.mp hvs
    have hall := congr (congrArg List.cons (displayIn_congr h outer v hv)) (displayAll_congr h outer vs hrest)
    exact hall

theorem displayEntries_congr (h : ∀ id, R (.builder id) → builders' id = builders id) (outer : List (List Char)) :
    (entries : List (Value × Value)) → (∀ e ∈ entries, e.1.Within R ∧ e.2.Within R) →
    displayEntries builders' outer entries = displayEntries builders outer entries
  | [], _ => rfl
  | (k, v) :: rest, hentries => by
    obtain ⟨⟨hk, hv⟩, hrest⟩ := List.forall_mem_cons.mp hentries
    have hkey := displayIn_congr h outer k hk
    have hshown := displayIn_congr h outer v hv
    have hfirst := congr (congrArg (fun key shown => key ++ ": ".toList ++ shown) hkey) hshown
    have hall := congr (congrArg List.cons hfirst) (displayEntries_congr h outer rest hrest)
    exact hall

theorem displayPairs_congr (h : ∀ id, R (.builder id) → builders' id = builders id) (outer : List (List Char)) :
    (entries : List (Value × Value)) → (∀ e ∈ entries, e.1.Within R ∧ e.2.Within R) →
    displayPairs builders' outer entries = displayPairs builders outer entries
  | [], _ => rfl
  | (k, v) :: rest, hentries => by
    obtain ⟨⟨hk, hv⟩, hrest⟩ := List.forall_mem_cons.mp hentries
    have hkey := displayIn_congr h outer k hk
    have hshown := displayIn_congr h outer v hv
    have hfirst := congr (congrArg (fun key shown => '(' :: key ++ ", ".toList ++ shown ++ [')']) hkey) hshown
    have hall := congr (congrArg List.cons hfirst) (displayPairs_congr h outer rest hrest)
    exact hall

theorem displayCounts_congr (h : ∀ id, R (.builder id) → builders' id = builders id) (outer : List (List Char)) :
    (entries : List (Value × Value)) → (∀ e ∈ entries, e.1.Within R ∧ e.2.Within R) →
    displayCounts builders' outer entries = displayCounts builders outer entries
  | [], _ => rfl
  | (k, v) :: rest, hentries => by
    obtain ⟨⟨hk, hv⟩, hrest⟩ := List.forall_mem_cons.mp hentries
    have hkey := displayIn_congr h outer k hk
    have hshown := displayIn_congr h outer v hv
    have hfirst := congr (congrArg (fun key shown => (v, key ++ ": ".toList ++ shown)) hkey) hshown
    have hall := congr (congrArg List.cons hfirst) (displayCounts_congr h outer rest hrest)
    exact hall

theorem displayAttributes_congr (h : ∀ id, R (.builder id) → builders' id = builders id) (outer : List (List Char)) :
    (own : List (String × Value)) → (∀ a ∈ own, a.2.Within R) →
    displayAttributes builders' outer own = displayAttributes builders outer own
  | [], _ => rfl
  | (name, v) :: rest, hown => by
    obtain ⟨hv, hrest⟩ := List.forall_mem_cons.mp hown
    have hfirst := congrArg (fun shown => name.toList ++ '=' :: shown) (displayIn_congr h outer v hv)
    have hall := congr (congrArg List.cons hfirst) (displayAttributes_congr h outer rest hrest)
    exact hall

theorem displayMatcher_congr (h : ∀ id, R (.builder id) → builders' id = builders id) (outer : List (List Char)) :
    (m : Matcher) → m.Within R → displayMatcher builders' outer m = displayMatcher builders outer m
  | .always, _ | .regex _ _, _ | .instanceOf _, _ | .category _, _ | .verdict _, _ | .depth _, _ => rfl
  | .literal expected, hm => congrArg (called "LiteralMatcher") (displayIn_congr h outer expected hm)
  | .sequence items, hm =>
    congrArg (fun parts => called "SequenceMatcher" ('[' :: commaSeparated parts ++ [']']))
      (displayMatchers_congr h outer items (Matcher.within_sequence.mp hm))
  | .mapping fields, hm =>
    congrArg (fun parts => called "MappingMatcher" ('{' :: commaSeparated parts ++ ['}']))
      (displayFields_congr h outer fields (Matcher.within_mapping.mp hm))
  | .predicate callee, hm => by
    have hcallee := displayIn_congr h outer callee hm
    cases callee with
    | function | cls => rfl
    | _ => exact congrArg (called "PredicateMatcher") hcallee
  | .anyOf ms, hm =>
    congrArg (fun parts => called "AnyOfMatcher" ('[' :: commaSeparated parts ++ [']']))
      (displayMatchers_congr h outer ms (Matcher.within_anyOf.mp hm))
  | .allOf ms, hm =>
    congrArg (fun parts => called "AllOfMatcher" ('[' :: commaSeparated parts ++ [']']))
      (displayMatchers_congr h outer ms (Matcher.within_allOf.mp hm))
  | .negation inner, hm => congrArg (called "NotMatcher") (displayMatcher_congr h outer inner hm)
  | .query source _ inner, hm =>
    congrArg (fun shown => called "QueryMatcher" (Quoted.text source.toList ++ ", ".toList ++ shown))
      (displayMatcher_congr h outer inner hm)
  | .comparison c bound, hm =>
    congrArg (fun shown => "<value ".toList ++ c.symbol.toList ++ ' ' :: shown ++ ['>'])
      (displayIn_congr h outer bound hm)
  | .between low high, hm => by
    obtain ⟨hlow, hhigh⟩ := Matcher.within_between.mp hm
    have hbounds := congr (congrArg (fun low high => '<' :: low ++ " <= value <= ".toList ++ high ++ ['>'])
      (displayIn_congr h outer low hlow)) (displayIn_congr h outer high hhigh)
    exact hbounds
  | .equality expected, hm => congrArg (called "EqualityMatcher") (displayIn_congr h outer expected hm)

theorem displayMatchers_congr (h : ∀ id, R (.builder id) → builders' id = builders id) (outer : List (List Char)) :
    (ms : List Matcher) → (∀ m ∈ ms, m.Within R) →
    displayMatchers builders' outer ms = displayMatchers builders outer ms
  | [], _ => rfl
  | m :: ms, hms => by
    obtain ⟨hm, hrest⟩ := List.forall_mem_cons.mp hms
    have hall := congr (congrArg List.cons (displayMatcher_congr h outer m hm)) (displayMatchers_congr h outer ms hrest)
    exact hall

theorem displayFields_congr (h : ∀ id, R (.builder id) → builders' id = builders id) (outer : List (List Char)) :
    (fields : List (Value × Matcher)) → (∀ f ∈ fields, f.1.Within R ∧ f.2.Within R) →
    displayFields builders' outer fields = displayFields builders outer fields
  | [], _ => rfl
  | (k, m) :: rest, hfields => by
    obtain ⟨⟨hk, hm⟩, hrest⟩ := List.forall_mem_cons.mp hfields
    have hkey := displayIn_congr h outer k hk
    have hshown := displayMatcher_congr h outer m hm
    have hfirst := congr (congrArg (fun key shown => key ++ ": ".toList ++ shown) hkey) hshown
    have hall := congr (congrArg List.cons hfirst) (displayFields_congr h outer rest hrest)
    exact hall

end

theorem display_congr {v : Value} (h : ∀ id, R (.builder id) → builders' id = builders id) (hv : v.Within R) :
    v.display builders' = v.display builders :=
  congrArg String.ofList (displayIn_congr h [] v hv)

theorem plainLeaf_congr {v : Value} (h : ∀ id, R (.builder id) → builders' id = builders id) (hv : v.Within R) :
    v.plainLeaf builders' = v.plainLeaf builders := by
  have hdisplay := display_congr h hv
  unfold plainLeaf
  split
  case h_8 entries =>
    have hplain : (plainMapping entries).Within R := within_mapping.mpr (within_mapping.mp hv)
    exact display_congr h hplain
  case h_9 => exact hdisplay
  all_goals rfl

/-- The plain form of a value asks for no patterns under construction but those that the value refers to. -/
theorem plain_congr {v : Value} (h : ∀ id, R (.builder id) → builders' id = builders id) (hv : v.Within R) :
    v.plain builders' = v.plain builders := by
  have hleaf := plainLeaf_congr h hv
  unfold plain
  split
  · rfl
  · have hargument := (within_fault.mp hv).1 _ List.mem_cons_self
    rw [display_congr h hargument, plainLeaf_congr h hargument]
  · exact display_congr h (within_sequence.mpr (within_fault.mp hv).1)
  · exact hleaf

end Clausewise.Value
