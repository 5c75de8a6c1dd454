import Mathlib.Data.List.TakeWhile
import Typings.Proofs.IndexedTypes

/-!
# Names of types in Java files

What holds of all parts that the rules of a grammar take and build holds of all parts that are read. In the grammar of
Java files the names of types are identifiers, so no other character comes to stand in one.
-/

namespace Typings.Source

/-! ## Parts that are read by a grammar -/

namespace Rule

variable {ν π : Type} {good : Token → Prop} {ok : π → Prop}

/-- Of parts that are right only such parts are built. -/
def Builds (ok : π → Prop) (f : List π → List π) : Prop :=
  ∀ parts, (∀ p ∈ parts, ok p) → ∀ p ∈ f parts, ok p

/-- From good tokens the rule takes and builds only parts that are right, those of its phrases apart. -/
@[simp] def Keeps (good : Token → Prop) (ok : π → Prop) : Rule ν π → Prop
  | .take test parts => ∀ t, good t → test t = true → ∀ p ∈ parts t.text, ok p
  | .andThen first second => first.Keeps good ok ∧ second.Keeps good ok
  | .choose _ ifSo ifNot => ifSo.Keeps good ok ∧ ifNot.Keeps good ok
  | .many _ body => body.Keeps good ok
  | .attempt first second => first.Keeps good ok ∧ second.Keeps good ok
  | .build f body => Builds ok f ∧ body.Keeps good ok
  | .nothing | .reject | .phrase _ | .notAtEnd => True

/-- From good tokens only parts that are right are read, and good tokens are left. -/
def ReadsOnly (good : Token → Prop) (ok : π → Prop) (reader : List Token → Reading π) : Prop :=
  ∀ ts parts rest, (∀ t ∈ ts, good t) → reader ts = .ok (parts, rest) → (∀ p ∈ parts, ok p) ∧ ∀ t ∈ rest, good t

namespace ReadsOnly

lemma nothing : ReadsOnly good ok fun ts => .ok (([] : List π), ts) := by
  rintro ts parts rest hts ⟨⟩
  exact ⟨by simp, hts⟩

lemma reject (e : Mismatch) : ReadsOnly good ok fun _ => (.error e : Reading π) := by
  rintro ts parts rest hts ⟨⟩

lemma map {reader : List Token → Reading π} {f : List π → List π} (hreader : ReadsOnly good ok reader)
    (hf : Builds ok f) : ReadsOnly good ok fun ts => (reader ts).map fun (parts, ts) => (f parts, ts) := by
  intro ts parts rest hts h
  dsimp only at h
  cases hread : reader ts with
  | error e =>
    rw [hread] at h
    cases h
  | ok result =>
    rw [hread] at h
    cases h
    obtain ⟨hparts, hrest⟩ := hreader ts _ _ hts hread
    exact ⟨hf _ hparts, hrest⟩

lemma append {first second : List Token → Reading π} (hfirst : ReadsOnly good ok first)
    (hsecond : ReadsOnly good ok second) :
    ReadsOnly good ok fun ts => match first ts with
      | .error e => .error e
      | .ok (parts, ts) => (second ts).map fun (more, ts) => (parts ++ more, ts) := by
  intro ts parts rest hts h
  dsimp only at h
  split at h
  · cases h
  · next before middle hread =>
    obtain ⟨hbefore, hmiddle⟩ := hfirst ts before middle hts hread
    refine map (f := (before ++ ·)) hsecond (fun after hafter => ?_) middle parts rest hmiddle h
    exact List.forall_mem_append.2 ⟨hbefore, hafter⟩

lemma readMany {test : List Token → Bool} {body : List Token → Reading π} (hbody : ReadsOnly good ok body)
    (count : ℕ) : ReadsOnly good ok (Rule.readMany test body count) := by
  induction count with
  | zero => exact reject .rejected
  | succ count ih =>
    intro ts parts rest hts h
    rw [Rule.readMany] at h
    split at h
    · exact append hbody ih ts parts rest hts h
    · exact nothing ts parts rest hts h

variable {readPhrase : ν → List Token → Reading π}

/-- If the phrases read only parts that are right, so does a rule that keeps to them. -/
theorem read {rule : Rule ν π} (hrule : rule.Keeps good ok) (hphrase : ∀ name, ReadsOnly good ok (readPhrase name))
    (limit : ℕ) : ReadsOnly good ok (rule.read limit readPhrase) := by
  induction rule with
  | nothing => exact nothing
  | reject => exact reject .rejected
  | take test parts =>
    intro ts parts' rest hts h
    cases ts with
    | nil => cases h
    | cons t ts =>
      obtain ⟨ht, hts⟩ := List.forall_mem_cons.1 hts
      rw [Rule.read] at h
      split at h
      · next htest =>
        cases h
        exact ⟨hrule t ht htest, hts⟩
      · cases h
  | andThen first second ihfirst ihsecond => exact append (ihfirst hrule.1) (ihsecond hrule.2)
  | choose test ifSo ifNot ihso ihnot =>
    intro ts parts rest hts h
    rw [Rule.read] at h
    split at h
    · exact ihso hrule.1 ts parts rest hts h
    · exact ihnot hrule.2 ts parts rest hts h
  | many test body ih => exact readMany (ih hrule) limit
  | attempt first second ihfirst ihsecond =>
    -- the second rule starts from the same tokens as the first one
    intro ts parts rest hts h
    rw [Rule.read] at h
    split at h
    · exact ihsecond hrule.2 ts parts rest hts h
    · exact ihfirst hrule.1 ts parts rest hts h
  | phrase name => exact hphrase name
  | build f body ih => exact map (ih hrule.2) hrule.1
  | notAtEnd =>
    intro ts parts rest hts h
    cases ts with
    | nil => cases h
    | cons t ts => exact nothing (t :: ts) parts rest hts h

/-- If each rule of a grammar keeps to parts that are right, only such parts are read by it. -/
theorem ofGrammar {rule : ν → Rule ν π} (hrule : ∀ name, (rule name).Keeps good ok) (depth : ℕ) (name : ν) :
    ReadsOnly good ok (Rule.readPhrase rule depth name) := by
  induction depth generalizing name with
  | zero => exact reject .rejected
  | succ depth ih => exact read (hrule name) ih depth

end ReadsOnly

section Keeps

variable {body : Rule ν π}

@[simp] lemma keeps_seq {rules : List (Rule ν π)} : (seq rules).Keeps good ok ↔ ∀ r ∈ rules, r.Keeps good ok := by
  induction rules with
  | nil => simp [seq]
  | cons r rules ih =>
    rw [List.forall_mem_cons, ← ih]
    rfl

@[simp] lemma keeps_select {cases : List ((List Token → Bool) × Rule ν π)} {otherwise : Rule ν π} :
    (select cases otherwise).Keeps good ok ↔ (∀ c ∈ cases, c.2.Keeps good ok) ∧ otherwise.Keeps good ok := by
  induction cases with
  | nil => simp [select]
  | cons c cases ih =>
    rw [List.forall_mem_cons, and_assoc, ← ih]
    rfl

@[simp] lemma keeps_sign (text : String) : (sign text : Rule ν π).Keeps good ok := by
  simp [sign]

@[simp] lemma keeps_signs (texts : List String) : (signs texts : Rule ν π).Keeps good ok := by
  simp [signs]

@[simp] lemma keeps_anyToken : (anyToken : Rule ν π).Keeps good ok := by
  simp [anyToken]

@[simp] lemma keeps_skipKind (kind : TokenKind) : (skipKind kind : Rule ν π).Keeps good ok := by
  simp [skipKind]

@[simp] lemma keeps_ifAhead {test : List Token → Bool} : (ifAhead test body).Keeps good ok ↔ body.Keeps good ok := by
  simp [ifAhead]

@[simp] lemma keeps_separated {separator : String} : (separated separator body).Keeps good ok ↔ body.Keeps good ok := by
  simp [separated]

@[simp] lemma keeps_listUntil {closing : String} : (listUntil closing body).Keeps good ok ↔ body.Keeps good ok := by
  simp [listUntil]

@[simp] lemma keeps_inBraces : (inBraces body).Keeps good ok ↔ body.Keeps good ok := by
  simp [inBraces]

@[simp] lemma keeps_drop : (drop body).Keeps good ok ↔ body.Keeps good ok := by
  simp [drop, Builds]

@[simp] lemma keeps_emit {part : π} : (emit part : Rule ν π).Keeps good ok ↔ ok part := by
  constructor
  · intro h
    exact h.1 [] (by simp) part (by simp)
  · intro h
    exact ⟨fun _ _ => List.forall_mem_singleton.2 h, trivial⟩

end Keeps

end Rule

/-! ## Names in declarations -/

section Names

variable {c : Char}

/-- The character is in none of the names that lead to a type in the declaration. -/
def TypeDeclaration.NamesAvoid (d : TypeDeclaration) (c : Char) : Prop :=
  ∀ names header, d.Declares names header → ∀ name ∈ names, c ∉ name.toList

/-- The character is in none of the names that lead to a type in the file. -/
def CompilationUnit.NamesAvoid (u : CompilationUnit) (c : Char) : Prop :=
  ∀ names header, u.Declares names header → ∀ name ∈ names, c ∉ name.toList

lemma CompilationUnit.namesAvoid_iff {u : CompilationUnit} : u.NamesAvoid c ↔ ∀ d ∈ u.types, d.NamesAvoid c := by
  constructor
  · intro h d hd names header hdeclares
    exact h names header ⟨d, hd, hdeclares⟩
  · rintro h names header ⟨d, hd, hdeclares⟩
    exact h d hd names header hdeclares

lemma TypeDeclaration.namesAvoid_mk {header : Header} {nested : List TypeDeclaration} :
    (mk header nested).NamesAvoid c ↔ c ∉ header.name.toList ∧ ∀ d ∈ nested, d.NamesAvoid c := by
  constructor
  · intro h
    have hname := h _ _ (.here _) header.name (List.mem_singleton.2 rfl)
    refine ⟨hname, fun d hd names inner hdeclares => ?_⟩
    exact (List.forall_mem_cons.1 (h _ inner (.inside hd hdeclares))).2
  · rintro ⟨hname, hnested⟩ names inner hdeclares
    cases hdeclares with
    | here => exact List.forall_mem_singleton.2 hname
    | inside hd hdeclares => exact List.forall_mem_cons.2 ⟨hname, hnested _ hd _ inner hdeclares⟩

end Names

/-! ## Tokens -/

/-- An identifier is without the character. -/
def Token.IsPlain (c : Char) (t : Token) : Prop :=
  t.kind = .identifier → c ∉ t.text.toList

section Tokens

open Token (IsPlain)

variable {c : Char}

lemma Token.text_ofWord (word : String) : (ofWord word).text = word := by
  unfold ofWord
  repeat' split
  all_goals rfl

lemma Token.isPlain_of_kind {t : Token} (h : t.kind ≠ .identifier) : t.IsPlain c :=
  fun hkind => absurd hkind h

lemma kind_of_operator? {cs rest : List Char} {t : Token} (h : Lexer.operator? cs = some (t, rest)) :
    t.kind = .operator := by
  obtain ⟨o, -, ho⟩ := List.exists_of_findSome?_eq_some h
  obtain ⟨rest, -, heq⟩ := Option.map_eq_some_iff.1 ho
  cases heq
  rfl

lemma token_of_skip {skipped : Except SourceError (List Char)} {t? : Option Token} {t : Token} {rest : List Char}
    (h : (do return (t?, ← skipped)) = Except.ok (some t, rest)) : t? = some t := by
  cases skipped <;> cases h
  rfl

variable (hc : Text.isIdentifierPart c = false)
include hc

lemma isPlain_ofWord {d : Char} (hd : Text.isIdentifierStart d = true) (cs : List Char) :
    (Token.ofWord (String.ofList (d :: cs.takeWhile Text.isIdentifierPart))).IsPlain c := by
  intro _ hmem
  rw [Token.text_ofWord, String.toList_ofList] at hmem
  have hpart : Text.isIdentifierPart c = true := by
    rcases List.mem_cons.1 hmem with rfl | hmem
    · rw [Text.isIdentifierPart, hd, Bool.true_or]
    · exact List.mem_takeWhile_imp hmem
  simp [hc] at hpart

lemma isPlain_of_next {d : Char} {cs rest : List Char} {t : Token} (h : Lexer.next d cs = .ok (some t, rest)) :
    t.IsPlain c := by
  unfold Lexer.next at h
  split at h
  · cases h
  split at h
  · cases h
  · cases token_of_skip h
  · cases h
    exact Token.isPlain_of_kind (by decide)
  · cases h
    exact Token.isPlain_of_kind (by decide)
  -- of what is left only words can be identifiers
  · split at h
    · cases token_of_skip h
      exact Token.isPlain_of_kind (by decide)
    split at h
    · cases h
      exact Token.isPlain_of_kind (by simp)
    split at h
    · cases token_of_skip h
      exact Token.isPlain_of_kind (by decide)
    split at h
    · cases token_of_skip h
      exact Token.isPlain_of_kind (by decide)
    split at h
    · next hstart =>
      cases h
      exact isPlain_ofWord hc hstart _
    split at h
    · next hoperator =>
      cases h
      exact Token.isPlain_of_kind (by simp [kind_of_operator? hoperator])
    · cases h

lemma isPlain_of_tokensOf {seen ts : List Token} {count : ℕ} {cs : List Char} (hseen : ∀ t ∈ seen, t.IsPlain c)
    (h : Lexer.tokensOf seen count cs = .ok ts) : ∀ t ∈ ts, t.IsPlain c := by
  induction count generalizing seen cs with
  | zero =>
    cases cs <;> cases h
    simpa using hseen
  | succ count ih =>
    cases cs with
    | nil =>
      cases h
      simpa using hseen
    | cons d cs =>
      unfold Lexer.tokensOf at h
      cases hnext : Lexer.next d cs with
      | error e =>
        rw [hnext] at h
        cases h
      | ok result =>
        rw [hnext] at h
        refine ih (List.forall_mem_append.2 ⟨fun t ht => ?_, hseen⟩) h
        rw [Option.mem_toList] at ht
        exact isPlain_of_next hc (hnext.trans (congrArg _ (Prod.ext ht rfl)))

theorem isPlain_of_tokenize {cs : List Char} {ts : List Token} (h : tokenize cs = .ok ts) : ∀ t ∈ ts, t.IsPlain c := by
  obtain ⟨replaced, -, h⟩ := exists_of_bind_ok h
  exact isPlain_of_tokensOf hc (List.forall_mem_nil _) h

end Tokens

/-! ## The grammar of Java files -/

namespace Grammar

open Rule

variable {c : Char}

/-- Words and the names in declarations are without the character. -/
def Part.IsPlain (c : Char) : Part → Prop
  | .word text => c ∉ text.toList
  | .declaration d => d.NamesAvoid c
  | _ => True

/-- The rule makes plain parts of plain tokens. -/
abbrev KeepsPlain (c : Char) (r : JavaRule) : Prop := r.Keeps (Token.IsPlain c) (Part.IsPlain c)

lemma words_plain {parts : List Part} (hparts : ∀ p ∈ parts, p.IsPlain c) : ∀ s ∈ words parts, c ∉ s.toList := by
  intro s hs
  obtain ⟨p, hp, hword⟩ := List.mem_filterMap.1 hs
  split at hword <;> cases hword
  exact hparts _ hp

lemma declarations_plain {parts : List Part} (hparts : ∀ p ∈ parts, p.IsPlain c) :
    ∀ d ∈ declarations parts, d.NamesAvoid c := by
  intro d hd
  obtain ⟨p, hp, hdeclaration⟩ := List.mem_filterMap.1 hd
  split at hdeclaration <;> cases hdeclaration
  exact hparts _ hp

section Builders

@[simp] lemma builds_declaration (kind : Kind) : Builds (Part.IsPlain c) (buildDeclaration kind) := by
  intro parts hparts
  have hname : c ∉ ((words parts).headD "").toList := by
    cases hwords : words parts with
    | nil => simp
    | cons name names => exact words_plain hparts name (by simp [hwords])
  exact List.forall_mem_singleton.2 (TypeDeclaration.namesAvoid_mk.2 ⟨hname, declarations_plain hparts⟩)

/-- A declaration keeps its name when it gets its modifiers. -/
@[simp] lemma builds_member : Builds (Part.IsPlain c) buildMember := by
  intro parts hparts
  unfold buildMember
  dsimp only
  split
  · next header nested rest heq =>
    have hmk := declarations_plain hparts (.mk header nested) (by simp [heq])
    obtain ⟨hname, hnested⟩ := TypeDeclaration.namesAvoid_mk.1 hmk
    exact List.forall_mem_singleton.2 (TypeDeclaration.namesAvoid_mk.2 ⟨hname, hnested⟩)
  · split <;> simp [Part.IsPlain]
  · split <;> simp [Part.IsPlain]
  · simp

@[simp] lemma builds_parameter : Builds (Part.IsPlain c) buildParameter := by
  intro parts hparts
  refine List.forall_mem_append.2 ⟨?_, fun p hp => hparts p (List.mem_filter.1 hp).1⟩
  simp [Part.IsPlain]

/-- All other parts that are built are plain. -/
lemma builds_of_isPlain {f : List Part → Part} (hf : ∀ parts, (f parts).IsPlain c) :
    Builds (Part.IsPlain c) fun parts => [f parts] :=
  fun parts _ => List.forall_mem_singleton.2 (hf parts)

@[simp] lemma builds_type : Builds (Part.IsPlain c) buildType := builds_of_isPlain fun _ => trivial

@[simp] lemma builds_typeParameter : Builds (Part.IsPlain c) buildTypeParameter := builds_of_isPlain fun _ => trivial

@[simp] lemma builds_parameters : Builds (Part.IsPlain c) buildParameters := builds_of_isPlain fun _ => trivial

@[simp] lemma builds_declarator : Builds (Part.IsPlain c) buildDeclarator := builds_of_isPlain fun _ => trivial

@[simp] lemma builds_extended : Builds (Part.IsPlain c) fun parts => [.extended (types parts)] :=
  builds_of_isPlain fun _ => trivial

@[simp] lemma builds_implemented : Builds (Part.IsPlain c) fun parts => [.implemented (types parts)] :=
  builds_of_isPlain fun _ => trivial

@[simp] lemma builds_unused : Builds (Part.IsPlain c) fun _ => [.unused] := builds_of_isPlain fun _ => trivial

@[simp] lemma builds_import : Builds (Part.IsPlain c) buildImport := builds_of_isPlain fun _ => trivial

end Builders

section Rules

@[simp] lemma keeps_name : KeepsPlain c name := by
  rintro t ht hkind p hp
  rw [List.mem_singleton.1 hp]
  exact ht (of_decide_eq_true hkind)

@[simp] lemma keeps_otherName : KeepsPlain c otherName := keeps_skipKind _

@[simp] lemma keeps_qualifiedName : KeepsPlain c qualifiedName := by
  simp [qualifiedName]

@[simp] lemma keeps_dimensions : KeepsPlain c dimensions := by
  simp [dimensions, Part.IsPlain]

@[simp] lemma keeps_listedType : KeepsPlain c listedType := by
  simp [listedType, basicArray, keepKind, Part.IsPlain]

@[simp] lemma keeps_typeList : KeepsPlain c typeList := by
  simp [typeList]

@[simp] lemma keeps_plainTypeArguments : KeepsPlain c plainTypeArguments := by
  simp [plainTypeArguments]

@[simp] lemma keeps_typeParameters : KeepsPlain c typeParameters := by
  simp [typeParameters]

@[simp] lemma keeps_declarationModifiers : KeepsPlain c declarationModifiers := by
  simp [declarationModifiers, keepKind, Part.IsPlain]

@[simp] lemma keeps_variableModifiers : KeepsPlain c variableModifiers := by
  simp [variableModifiers]

@[simp] lemma keeps_parameters : KeepsPlain c parameters := by
  simp [parameters]

@[simp] lemma keeps_methodBody : KeepsPlain c methodBody := by
  simp [methodBody, block]

@[simp] lemma keeps_throwsClause : KeepsPlain c throwsClause := by
  simp [throwsClause]

@[simp] lemma keeps_methodRest : KeepsPlain c methodRest := by
  simp [methodRest]

@[simp] lemma keeps_voidMethodRest : KeepsPlain c voidMethodRest := by
  simp [voidMethodRest]

@[simp] lemma keeps_constructor : KeepsPlain c constructor := by
  simp [constructor, block, Part.IsPlain]

@[simp] lemma keeps_declaratorRest : KeepsPlain c declaratorRest := by
  simp [declaratorRest]

@[simp] lemma keeps_declarator : KeepsPlain c declarator := by
  simp [declarator]

@[simp] lemma keeps_constantsRest : KeepsPlain c constantsRest := by
  simp [constantsRest, constantRest]

@[simp] lemma keeps_importDeclaration : KeepsPlain c importDeclaration := by
  simp [importDeclaration, keepKind, Part.IsPlain]

/-- Every rule of the grammar makes plain parts of plain tokens. -/
theorem keepsPlain_rule (phrase : Phrase) : KeepsPlain c (rule phrase) := by
  cases phrase with
  | type | referenceType | typeArguments => simp [rule, typeArgument, keepKind, Part.IsPlain]
  | annotationUse | elementValue => simp [rule, annotationArgument, elementValues, optionalUnless]
  | classBody | bodyDeclaration => simp [rule, bodyDeclaration, block]
  | member => simp [rule, member, genericMember, typeCases]
  | interfaceMember => simp [rule, interfaceMember, typeCases]
  | annotationMember => simp [rule, annotationMember, typeCases]
  | parameterList => simp [rule, parameterList, Part.IsPlain]
  | typeDeclaration => simp [rule, typeDeclaration, typeCases]
  | classDeclaration | enumDeclaration | interfaceDeclaration | annotationDeclaration | enumConstants =>
    simp [rule, classDeclaration, enumDeclaration, interfaceDeclaration, annotationDeclaration, enumConstants,
      extendsClause, implementsClause, keepKind, Part.IsPlain]
  | block | blockStatement | statement | resources =>
    simp [rule, blockStatement, localVariables, statement, resources, parenthesized, caseGroup, loopControl,
      variableControl, optionalUnless, loopRest, expressionList, tryRest, catchClauses, catchClause, finallyClause]
  | expression | conditional | binary | unary | primary | selector | creator =>
    simp [rule, expression, conditional, lambdaBody, optionalTypeArguments, binary, infixOperator, unary, operand,
      lambda, inferredParameters, cast, superRest, genericCall, classCreatorRest, innerCreator, nameRest, primary,
      parenthesized, arguments, expressionList, selector, arrayCreatorRest, createdName, creator]
  | initializer | arrayInitializer | initializers => simp [rule, arrayInitializer, initializers]

/-- A rule that makes plain parts of plain tokens reads nothing else, whatever it reads on the way. -/
theorem readsOnly_read {r : JavaRule} (hr : KeepsPlain c r) :
    ReadsOnly (Token.IsPlain c) (Part.IsPlain c) (Grammar.read r) :=
  fun ts => ReadsOnly.read hr (ReadsOnly.ofGrammar keepsPlain_rule _) _ ts

end Rules

end Grammar

/-! ## Files -/

namespace CompilationUnit

variable {c : Char}

lemma readsOnly_readBy {ended : SourceError} {r : Grammar.JavaRule} {ts rest : List Token} {parts : List Grammar.Part}
    (hr : Grammar.KeepsPlain c r) (hts : ∀ t ∈ ts, t.IsPlain c) (h : readBy ended r ts = .ok (parts, rest)) :
    (∀ p ∈ parts, p.IsPlain c) ∧ ∀ t ∈ rest, t.IsPlain c := by
  unfold readBy at h
  cases hread : Grammar.read r ts with
  | error e =>
    rw [hread] at h
    cases h
  | ok result =>
    rw [hread] at h
    cases h
    exact Grammar.readsOnly_read hr ts parts rest hts hread

lemma plain_of_readPackage {ts rest : List Token} {package : List String} (hts : ∀ t ∈ ts, t.IsPlain c)
    (h : readPackage ts = .ok (package, rest)) : ∀ t ∈ rest, t.IsPlain c := by
  obtain ⟨⟨annotations, afterAnnotations⟩, hannotations, h⟩ := exists_of_bind_ok h
  have hafter := (readsOnly_readBy (by simp [Grammar.packageAnnotations]) hts hannotations).2
  dsimp only at h
  split at h
  · obtain ⟨⟨parts, rest⟩, hpackage, h⟩ := exists_of_bind_ok h
    cases h
    exact (readsOnly_readBy (by simp [Grammar.packageDeclaration]) hafter hpackage).2
  · cases h
    exact hts

/-- No character but those of identifiers stands in the name of a type that is read. -/
theorem namesAvoid_of_ofTokens {ts : List Token} {u : CompilationUnit} (hts : ∀ t ∈ ts, t.IsPlain c)
    (h : ofTokens ts = .ok u) : u.NamesAvoid c := by
  obtain ⟨⟨package, ts⟩, hpackage, h⟩ := exists_of_bind_ok h
  obtain ⟨⟨imports, ts⟩, himports, h⟩ := exists_of_bind_ok h
  obtain ⟨⟨types, rest⟩, htypes, h⟩ := exists_of_bind_ok h
  cases h
  have hts := plain_of_readPackage hts hpackage
  have hts := (readsOnly_readBy (by simp [Grammar.importDeclarations]) hts himports).2
  have hparts := (readsOnly_readBy (by simp [Grammar.typeDeclarations]) hts htypes).1
  exact namesAvoid_iff.2 (Grammar.declarations_plain hparts)

theorem namesAvoid_of_ofBytes (hc : Text.isIdentifierPart c = false) {bytes : ByteArray} {u : CompilationUnit}
    (h : ofBytes bytes = .ok u) : u.NamesAvoid c := by
  obtain ⟨ts, htokens, h⟩ := exists_of_bind_ok h
  exact namesAvoid_of_ofTokens (isPlain_of_tokenize hc htokens) h

end CompilationUnit

theorem namesAvoid_of_mem_unitsBelow {c : Char} (hc : Text.isIdentifierPart c = false) {tree : Files.FileTree}
    {roots : List Files.Path} {u : CompilationUnit} (hu : u ∈ unitsBelow tree roots) : u.NamesAvoid c := by
  obtain ⟨⟨path, e⟩, -, hunit⟩ := List.mem_filterMap.1 hu
  cases e with
  | directory => cases hunit
  | file bytes =>
    cases hbytes : CompilationUnit.ofBytes bytes with
    | error e =>
      simp only [unit?, hbytes, Except.toOption] at hunit
      cases hunit
    | ok v =>
      simp only [unit?, hbytes, Except.toOption] at hunit
      cases hunit
      exact CompilationUnit.namesAvoid_of_ofBytes hc hbytes

end Typings.Source
