import Typings.Proofs.ListedMembers
import Typings.Proofs.RecoveredHeaders

/-!
# Recovered members

Each entry of a listing is read on its own: after its lines no declaration waits for a descriptor. A run over all entries
therefore adds the members one by one, and whether all of them are recovered depends on the names of methods only.
-/

namespace Typings.Javap

open Text (isBlank)

/-! ## Lines -/

/-- A character of a declaration. -/
def isDeclarationChar (c : Char) : Bool :=
  isTypeChar c || c ∈ ['(', ')', '-']

lemma not_declarationChar {c : Char} (h : isDeclarationChar c = true) :
    Text.isLineBreak c = false ∧ c ∉ ['{', ';', ':'] := by
  have hothers : ['{', ';', ':'].all (fun c => !isDeclarationChar c) = true := by decide +kernel
  have hmarks : (['<', '>', ',', ' ', '?', '&'] ++ ['(', ')', '-']).all (fun c => !Text.isLineBreak c) = true := by
    decide +kernel
  simp only [List.all_eq_true, Bool.not_eq_true'] at hothers hmarks
  refine ⟨?_, fun hmem => by simp [hothers c hmem] at h⟩
  rw [isDeclarationChar, isTypeChar, Bool.or_eq_true, Bool.or_eq_true, decide_eq_true_eq, decide_eq_true_eq] at h
  rcases h with (h | h) | h
  · by_contra hbreak
    have hblank := Text.isBlank_of_isLineBreak (by simpa using hbreak)
    simp [(not_nameChar h).1] at hblank
  · exact hmarks c (List.mem_append_left _ h)
  · exact hmarks c (List.mem_append_right _ h)

/-- The text of a declaration. -/
structure IsDeclaration (cs : List Char) : Prop where
  ne_nil : cs ≠ []
  starts : ∀ c ∈ cs.head?, isBlank c = false
  chars : cs.all isDeclarationChar = true

section Lines

variable {declaration descriptor : List Char}

lemma IsDeclaration.notMem (h : IsDeclaration declaration) : ∀ c ∈ ['{', ':'], c ∉ declaration ++ [';'] := by
  intro c hmem hc
  have hmark : c ∈ ['{', ';', ':'] ∧ c ≠ ';' := by
    simp only [List.mem_cons, List.not_mem_nil, or_false] at hmem ⊢
    rcases hmem with rfl | rfl <;> simp
  rcases List.mem_append.1 hc with hc | hc
  · exact (not_declarationChar (List.all_eq_true.1 h.chars c hc)).2 hmark.1
  · exact hmark.2 (List.mem_singleton.1 hc)

/-- A declaration is not taken for a descriptor. -/
lemma IsDeclaration.descriptorOf? (h : IsDeclaration declaration) :
    Javap.descriptorOf? (' ' :: ' ' :: (declaration ++ [';'])) = none := by
  have hstarts : ∀ c ∈ (declaration ++ [';']).head?, isBlank c = false :=
    Text.forall_head_append h.starts (by simp; decide)
  have htext : (' ' :: ' ' :: (declaration ++ [';'])).dropWhile isBlank = declaration ++ [';'] := by
    rw [List.dropWhile_cons_of_pos Text.isBlank_space, dropWhile_space hstarts]
  have hafter : Text.afterStart? "descriptor:".toList (declaration ++ [';']) = none := by
    rw [Option.eq_none_iff_forall_ne_some]
    intro rest hrest
    refine h.notMem ':' (by simp) ?_
    rw [Text.eq_append_of_afterStart? hrest]
    exact List.mem_append_left _ (by decide)
  rw [Javap.descriptorOf?, htext, hafter]
  exact if_pos Text.isBlank_space

lemma IsDeclaration.declarationOf? (h : IsDeclaration declaration) :
    Javap.declarationOf? (' ' :: ' ' :: (declaration ++ [';'])) = some declaration := by
  have hblanks : ∀ c ∈ [' ', ' '], isBlank c = true := by simp [Text.isBlank_space]
  have hstarts : ∀ c ∈ (declaration ++ [';']).head?, isBlank c = false :=
    Text.forall_head_append h.starts (by simp; decide)
  have hends : ∀ c ∈ (declaration ++ [';']).getLast?, isBlank c = false := by
    simp only [List.getLast?_concat, Option.mem_some, forall_eq']
    decide
  have htrim : Text.trim (' ' :: ' ' :: (declaration ++ [';'])) = declaration ++ [';'] := by
    simpa using Text.trim_append (by simp) hstarts hends hblanks (List.forall_mem_nil _)
  rw [Javap.declarationOf?, htrim, List.getLast?_concat, if_pos ⟨rfl, h.notMem _ (by simp)⟩, List.dropLast_concat]

lemma descriptorOf?_descriptorLine (h : Text.IsSolid descriptor) :
    descriptorOf? ("    descriptor: ".toList ++ descriptor) = some descriptor := by
  have hstart : ("    descriptor: ".toList ++ descriptor).head?.any isBlank = true := rfl
  have hafter : Text.afterStart? "descriptor:".toList (("    descriptor: ".toList ++ descriptor).dropWhile isBlank) =
      some (' ' :: descriptor) := rfl
  simp only [descriptorOf?, hstart, hafter, Text.isBlank_space, if_true, h.words]

lemma isSingleLine_memberLines (hdeclaration : IsDeclaration declaration) (hdescriptor : Text.IsSolid descriptor) :
    ∀ line ∈ memberLines declaration descriptor, Text.isSingleLine line = true := by
  have hchars : Text.isSingleLine declaration = true :=
    List.all_eq_true.2 fun c hc => by simp [not_declarationChar (List.all_eq_true.1 hdeclaration.chars c hc)]
  have hmarks : Text.isLineBreak ' ' = false ∧ Text.isSingleLine [';'] = true ∧
      Text.isSingleLine "    descriptor: ".toList = true := by decide +kernel
  simp only [memberLines, List.forall_mem_cons, Text.isSingleLine_cons, Text.isSingleLine_append, hmarks, hchars,
    hdescriptor.isSingleLine]
  exact ⟨rfl, rfl, List.forall_mem_nil _⟩

/-- A declaration waits for the descriptor on the next line only. -/
lemma readMembers_memberLines (hdeclaration : IsDeclaration declaration) (hdescriptor : Text.IsSolid descriptor)
    {d : Java.Descriptor} (hd : Java.Descriptor.ofString (String.ofList descriptor) = .ok d) (l : Listing)
    (rest : List (List Char)) : readMembers l none (memberLines declaration descriptor ++ rest) =
      readMembers (l.addMember declaration d) none rest := by
  simp only [memberLines, List.cons_append, List.nil_append, readMembers, hdeclaration.descriptorOf?,
    hdeclaration.declarationOf?, descriptorOf?_descriptorLine hdescriptor, hd]
  rfl

end Lines

/-! ## Adding a member -/

/-- What stands before the name of a member: without type arguments nothing is left, or a word. -/
structure IsLeadText (cs : List Char) : Prop where
  ne_nil : cs ≠ []
  isBalanced : isBalanced 0 cs = true
  chars : cs.all isDeclarationChar = true
  starts : ∀ c ∈ cs.head?, isBlank c = false
  solid : ∀ c ∈ stripGenerics cs, isBlank c = false ∧ c ≠ '('

/-- Texts before the name of a member, of which the given words are left. -/
structure IsLead (lead : List (List Char)) (words : List String) : Prop where
  texts : ∀ text ∈ lead, IsLeadText text
  words : ((lead.map stripGenerics).filter (· ≠ [])).map String.ofList = words

section Members

variable {lead : List (List Char)} {words : List String} {name : List Char} {isInterface : Bool}

lemma stripGenerics_spaced (h : ∀ text ∈ lead, isBalanced 0 text = true) (rest : List Char) :
    stripGenerics (spaced lead ++ rest) = spaced (lead.map stripGenerics) ++ stripGenerics rest := by
  have hspace : IsPlain [' '] := by decide
  induction lead with
  | nil => rfl
  | cons text lead ih =>
    obtain ⟨htext, hlead⟩ := List.forall_mem_cons.1 h
    have hrest := ih hlead
    rw [spaced, spaced] at hrest ⊢
    rw [List.map_cons, List.flatMap_cons, List.flatMap_cons, List.append_assoc, List.append_assoc,
      stripGenerics_append htext, stripGenerics_append hspace.isBalanced, hspace.stripGenerics, hrest, List.append_assoc,
      List.append_assoc]

lemma stripGenerics_declaration (hlead : IsLead lead words) (hname : IsTypeWord name) (tail : List Char) :
    stripGenerics (spaced lead ++ (name ++ tail)) = spaced (lead.map stripGenerics) ++ name ++ stripGenerics tail := by
  rw [stripGenerics_spaced fun text htext => (hlead.texts text htext).isBalanced,
    stripGenerics_append hname.isPlain.isBalanced, hname.isPlain.stripGenerics, List.append_assoc]

lemma words_declaration (hlead : IsLead lead words) (hname : IsTypeWord name) :
    (Text.words (spaced (lead.map stripGenerics) ++ name)).map String.ofList = words ++ [String.ofList name] := by
  have hsolid : ∀ text ∈ lead.map stripGenerics, ∀ c ∈ text, isBlank c = false :=
    List.forall_mem_map.2 fun text htext c hc => ((hlead.texts text htext).solid c hc).1
  rw [spaced, Text.words_flatMap hsolid, hname.isSolid.words, List.map_append, hlead.words]
  rfl

/-- The first parenthesis is the one after the name. -/
lemma takeWhile_declaration (hlead : IsLead lead words) (hname : IsTypeWord name) {tail : List Char}
    (htail : tail.head? = some '(') :
    (stripGenerics (spaced lead ++ (name ++ tail))).takeWhile (· ≠ '(') = spaced (lead.map stripGenerics) ++ name := by
  obtain ⟨rest, rfl⟩ : ∃ rest, tail = '(' :: rest := List.head?_eq_some_iff.1 htail
  have hfront : ∀ c ∈ spaced (lead.map stripGenerics) ++ name, decide (c ≠ '(') = true := by
    have hspace : (' ' : Char) ≠ '(' := by decide
    intro c hc
    rw [decide_eq_true_eq]
    simp only [spaced, List.mem_append, List.mem_flatMap, List.mem_map, List.mem_singleton] at hc
    rcases hc with ⟨_, ⟨text, htext, rfl⟩, hc | rfl⟩ | hc
    · exact ((hlead.texts text htext).solid c hc).2
    · exact hspace
    · rintro rfl
      exact (not_nameChar (List.all_eq_true.1 hname.chars _ hc)).2 (by simp)
  rw [stripGenerics_declaration hlead hname]
  exact (Text.takeWhile_dropWhile_append hfront (by simp [stripGenerics, dropGenerics])).1

/-- Members of interfaces are public already, or private. -/
lemma modifiers_declaration {words others : List String} (hothers : ∀ word ∈ others, Java.Modifier.ofKeyword? word = none)
    (haccess : isInterface = true → "public" ∈ words ∨ "private" ∈ words) (name : String) :
    (if isInterface = true ∧ "private" ∉ words ++ others ++ [name] then
        (Java.Modifiers.ofKeywords (words ++ others)).insert .publicAccess
      else Java.Modifiers.ofKeywords (words ++ others)) = .named words := by
  rw [Java.Modifiers.ofKeywords_eq_named, Java.Modifiers.named_append_of_noKeyword hothers]
  split
  · next hcond =>
    have hprivate : "private" ∉ words := fun hmem => hcond.2 (List.mem_append_left _ (List.mem_append_left _ hmem))
    exact Java.Modifiers.insert_named ((haccess hcond.1).resolve_right hprivate)
  · rfl

variable {l : Listing} {others : List String} (hlead : IsLead lead (words ++ others)) (hname : IsTypeWord name)
  (hothers : ∀ word ∈ others, Java.Modifier.ofKeyword? word = none)
  (haccess : l.isInterface = true → "public" ∈ words ∨ "private" ∈ words)
include hlead hname hothers haccess

lemma addMember_field (type : String) : l.addMember (spaced lead ++ name) ⟨none, type⟩ =
    { l with fields := l.fields ++ [⟨String.ofList name, type, .named words⟩] } := by
  have hstrip : stripGenerics (spaced lead ++ name) = spaced (lead.map stripGenerics) ++ name := by
    simpa [stripGenerics, dropGenerics] using stripGenerics_declaration hlead hname []
  simp only [Listing.addMember, hstrip, Option.isSome_none, Bool.false_eq_true, if_false, words_declaration hlead hname,
    List.getLast?_concat, List.dropLast_concat, modifiers_declaration hothers haccess]

lemma addMember_method {tail : List Char} (htail : tail.head? = some '(') (parameters : List String) (type : String) :
    l.addMember (spaced lead ++ (name ++ tail)) ⟨some parameters, type⟩ =
      if String.ofList name = l.name then { l with constructors := l.constructors ++ [⟨parameters, .named words⟩] }
      else { l with methods := l.methods ++ [⟨String.ofList name, parameters, type, .named words⟩] } := by
  simp only [Listing.addMember, takeWhile_declaration hlead hname htail, Option.isSome_some, if_true,
    words_declaration hlead hname, List.getLast?_concat, List.dropLast_concat, modifiers_declaration hothers haccess]

end Members

/-! ## Entries -/

lemma starts_of_stripGenerics {cs : List Char} (h : ∀ c ∈ (stripGenerics cs).head?, isBlank c = false) :
    ∀ c ∈ cs.head?, isBlank c = false := by
  cases cs with
  | nil => simp
  | cons c cs =>
    by_cases hbracket : c = '<' ∨ c = '>'
    · rcases hbracket with rfl | rfl <;> simp <;> decide
    · rw [not_or] at hbracket
      simpa [stripGenerics, dropGenerics, hbracket] using h

lemma all_isDeclarationChar {cs : List Char} (h : cs.all isTypeChar = true) : cs.all isDeclarationChar = true := by
  simp only [List.all_eq_true, isDeclarationChar, Bool.or_eq_true] at h ⊢
  exact fun c hc => .inl (h c hc)

lemma IsType.isLeadText {cs : List Char} (h : IsType cs) : IsLeadText cs where
  ne_nil := by
    rintro rfl
    exact h.isTypeWord.isSolid.ne_nil rfl
  isBalanced := h.isTypeText.isBalanced
  chars := all_isDeclarationChar h.isTypeText.chars
  starts := starts_of_stripGenerics fun c hc => h.isTypeWord.isSolid.solid c (List.mem_of_mem_head? hc)
  solid c hc := by
    refine ⟨h.isTypeWord.isSolid.solid c hc, ?_⟩
    rintro rfl
    exact (not_nameChar (List.all_eq_true.1 h.isTypeWord.chars _ hc)).2 (by simp)

namespace IsLead

lemma append {lead others : List (List Char)} {words more : List String} (h : IsLead lead words)
    (hothers : IsLead others more) : IsLead (lead ++ others) (words ++ more) where
  texts := List.forall_mem_append.2 ⟨h.texts, hothers.texts⟩
  words := by rw [List.map_append, List.filter_append, List.map_append, h.words, hothers.words]

lemma type {text : List Char} (h : IsType text) : IsLead [text] [String.ofList (stripGenerics text)] where
  texts := List.forall_mem_singleton.2 h.isLeadText
  words := by simp [h.isTypeWord.isSolid.ne_nil]

lemma modifier (word : ModifierWord) : IsLead [word.1.toList] [word.1] := by
  have hall : ∀ word ∈ Java.modifierWords, IsPlain word.toList ∧ Text.IsSolid word.toList ∧ '(' ∉ word.toList ∧
      word.toList.all isDeclarationChar = true := by decide +kernel
  obtain ⟨hplain, hsolid, hparen, hchars⟩ := hall word.1 word.2
  refine ⟨List.forall_mem_singleton.2 ⟨hsolid.ne_nil, hplain.isBalanced, hchars, ?_, ?_⟩, ?_⟩
  · exact fun c hc => hsolid.solid c (List.mem_of_mem_head? hc)
  · rw [hplain.stripGenerics]
    exact fun c hc => ⟨hsolid.solid c hc, fun heq => hparen (heq ▸ hc)⟩
  · simp [hplain.stripGenerics, hsolid.ne_nil]

/-- Modifiers stand before the name as they are. -/
lemma modifiers (words : List ModifierWord) : IsLead (modifierTexts words) (words.map (·.1)) := by
  induction words with
  | nil => exact ⟨List.forall_mem_nil _, rfl⟩
  | cons word words ih => exact (modifier word).append ih

/-- Nothing is left of type parameters. -/
lemma typeParameters (ps : List TypeParameter) : IsLead (typeParameterTexts ps) [] := by
  cases ps with
  | nil => exact ⟨List.forall_mem_nil _, rfl⟩
  | cons p ps =>
    have htexts : ∀ text ∈ (p :: ps).map TypeParameter.text, IsTypeText text :=
      List.forall_mem_map.2 fun p _ => p.isTypeText
    obtain ⟨htext, hstrip⟩ := IsTypeText.angled htexts
    refine ⟨List.forall_mem_singleton.2 ⟨by simp [angled], htext.isBalanced, all_isDeclarationChar htext.chars, ?_, ?_⟩, ?_⟩
    · simp only [List.map_cons, angled, List.cons_append, List.head?_cons, Option.mem_some, forall_eq']
      decide
    · rw [hstrip]
      exact List.forall_mem_nil _
    · rw [typeParameterTexts, List.map_singleton, hstrip]
      rfl

lemma signature (s : Signature) : IsLead s.lead (s.words.map (·.1)) := by
  have h := (modifiers s.words).append (typeParameters s.typeParameters)
  rwa [List.append_nil] at h

end IsLead

lemma isType_resultText (result? : Option WrittenType) : IsType (resultText result?) := by
  cases result? with
  | none =>
    have hvoid : "void".toList.all isNameChar = true ∧ Java.Modifier.ofKeyword? "void" = none := by decide +kernel
    exact IsTypeWord.isType ⟨hvoid.1, "void".toList, [], (List.append_nil _).symm, by decide,
      (String.ofList_toList (s := "void")).symm ▸ hvoid.2, by simp⟩
  | some type => exact type.isType

section Declarations

variable {lead : List (List Char)} {words : List String} {name tail : List Char}

lemma IsLead.isDeclaration (h : IsLead lead words) (hname : IsTypeWord name) (htail : tail.all isDeclarationChar = true) :
    IsDeclaration (spaced lead ++ (name ++ tail)) where
  ne_nil := by simp [hname.isSolid.ne_nil]
  starts := by
    cases lead with
    | nil => exact hname.isSolid.head_append tail
    | cons text lead =>
      obtain ⟨c, cs, hcons⟩ := List.exists_cons_of_ne_nil (h.texts text List.mem_cons_self).ne_nil
      have hstarts := (h.texts text List.mem_cons_self).starts
      rw [hcons] at hstarts
      rw [spaced, List.flatMap_cons, hcons]
      simpa using hstarts
  chars := by
    have hspace : isDeclarationChar ' ' = true := by decide +kernel
    have hlead : (spaced lead).all isDeclarationChar = true := by
      refine List.all_eq_true.2 fun c hc => ?_
      obtain ⟨text, htext, hc⟩ := List.mem_flatMap.1 hc
      rcases List.mem_append.1 hc with hc | hc
      · exact List.all_eq_true.1 (h.texts text htext).chars c hc
      · rw [List.mem_singleton.1 hc, hspace]
    rw [List.all_append, List.all_append, hlead, htail, all_isDeclarationChar (IsTypeText.of_nameChars hname.chars).chars]
    rfl

lemma Signature.all_tail (s : Signature) : s.tail.all isDeclarationChar = true := by
  have hmarks : isDeclarationChar '(' = true ∧ isDeclarationChar ')' = true ∧ isDeclarationChar ' ' = true := by
    decide +kernel
  have hdots : (if s.isVariadic then ['.', '.', '.'] else []).all isDeclarationChar = true := by
    cases s.isVariadic <;> decide +kernel
  have hparameters : IsTypeText (commaSeparated 1 (s.parameters.map WrittenType.text)) :=
    .commaSeparated (List.forall_mem_map.2 fun t _ => t.isType.isTypeText)
  have hthrows : (clauseText "throws" 1 (s.thrown.map ClassType.text)).all isDeclarationChar = true := by
    have hthrown : IsTypeText (commaSeparated 1 (s.thrown.map ClassType.text)) :=
      .commaSeparated (List.forall_mem_map.2 fun t _ => t.isType.isTypeText)
    have hword : "throws".toList.all isDeclarationChar = true := by decide +kernel
    cases hcases : s.thrown with
    | nil => rfl
    | cons t ts =>
      rw [hcases, List.map_cons] at hthrown
      rw [List.map_cons, clauseText, List.all_cons, List.all_append, List.all_cons, hmarks.2.2, hword,
        all_isDeclarationChar hthrown.chars]
      rfl
  rw [tail, List.all_cons, List.all_append, List.all_append, List.all_cons, hmarks.1, hmarks.2.1, hdots, hthrows,
    all_isDeclarationChar hparameters.chars]
  rfl

lemma isLead_field (words : List ModifierWord) (type : WrittenType) :
    IsLead (modifierTexts words ++ [type.text]) (words.map (·.1) ++ [String.ofList (stripGenerics type.text)]) :=
  (IsLead.modifiers words).append (.type type.isType)

lemma isLead_method (s : Signature) (result? : Option WrittenType) :
    IsLead (s.lead ++ [resultText result?])
      (s.words.map (·.1) ++ [String.ofList (stripGenerics (resultText result?))]) :=
  (IsLead.signature s).append (.type (isType_resultText result?))

lemma isDeclaration_field (words : List ModifierWord) (type : WrittenType) (name : Identifier) :
    IsDeclaration (spaced (modifierTexts words ++ [type.text]) ++ name.name.toList) := by
  have h := (isLead_field words type).isDeclaration name.isTypeWord (rfl : [].all isDeclarationChar = true)
  rwa [List.append_nil] at h

lemma Entry.isSingleLine_lines (className : QualifiedName) (e : Entry) :
    ∀ line ∈ e.lines className, Text.isSingleLine line = true := by
  cases e with
  | field words type name erased =>
    exact isSingleLine_memberLines (isDeclaration_field words type name) erased.isSolid_descriptor
  | method s result? name erased? =>
    exact isSingleLine_memberLines ((isLead_method s result?).isDeclaration name.isTypeWord s.all_tail)
      (s.isSolid_descriptor erased?)
  | constructor s =>
    exact isSingleLine_memberLines ((IsLead.signature s).isDeclaration className.isTypeWord s.all_tail)
      (s.isSolid_descriptor none)
  | staticInitializer =>
    have hlines : ∀ line ∈ ["  static {};".toList, "    descriptor: ()V".toList], Text.isSingleLine line = true := by
      decide +kernel
    exact hlines
  | blankLine => exact List.forall_mem_singleton.2 rfl

end Declarations

/-- The listing with the entry's member, if it has one. A method that has the name of the class is added as a
constructor. -/
def Entry.addTo (l : Listing) : Entry → Listing
  | field words type name erased => { l with fields := l.fields ++ (field words type name erased).field?.toList }
  | method s result? name erased? =>
    if name.name = l.name then { l with constructors := l.constructors ++ (constructor s).constructor?.toList }
    else { l with methods := l.methods ++ (method s result? name erased?).method?.toList }
  | constructor s => { l with constructors := l.constructors ++ (constructor s).constructor?.toList }
  | staticInitializer => l
  | blankLine => l

section Reading

variable {className : QualifiedName} {l : Listing}

/-- The lines of an entry add its member, and no declaration waits after them. -/
theorem readMembers_entry (hname : l.name = className.name) (e : Entry)
    (haccess : l.isInterface = true → e.isMember = true → "public" ∈ e.words ∨ "private" ∈ e.words)
    (rest : List (List Char)) : readMembers l none (e.lines className ++ rest) = readMembers (e.addTo l) none rest := by
  cases e with
  | field words type name erased =>
    have hothers : ∀ word ∈ [String.ofList (stripGenerics type.text)], Java.Modifier.ofKeyword? word = none :=
      List.forall_mem_singleton.2 type.isType.isTypeWord.noKeyword
    rw [Entry.lines, readMembers_memberLines (isDeclaration_field words type name) erased.isSolid_descriptor
      erased.ofString_descriptor, addMember_field (isLead_field words type) name.isTypeWord hothers
      (fun h => haccess h rfl), String.ofList_toList]
    rfl
  | method s result? name erased? =>
    have hothers : ∀ word ∈ [String.ofList (stripGenerics (resultText result?))], Java.Modifier.ofKeyword? word = none :=
      List.forall_mem_singleton.2 (isType_resultText result?).isTypeWord.noKeyword
    have hdeclaration := (isLead_method s result?).isDeclaration name.isTypeWord s.all_tail
    rw [Entry.lines, readMembers_memberLines hdeclaration (s.isSolid_descriptor erased?) (s.ofString_descriptor erased?),
      addMember_method (isLead_method s result?) name.isTypeWord hothers (fun h => haccess h rfl) rfl,
      String.ofList_toList]
    rfl
  | constructor s =>
    have hlead := IsLead.signature s
    rw [← List.append_nil (s.words.map _)] at hlead
    have hdeclaration := hlead.isDeclaration className.isTypeWord s.all_tail
    have hown : String.ofList className.text = l.name := hname.symm
    have hread := readMembers_memberLines hdeclaration (s.isSolid_descriptor none) (s.ofString_descriptor none) l rest
    rw [addMember_method hlead className.isTypeWord (List.forall_mem_nil _) (fun h => haccess h rfl) rfl, if_pos hown]
      at hread
    exact hread
  | staticInitializer => rfl
  | blankLine => rfl

/-- Nothing but members is added. -/
lemma Entry.addTo_frame (l : Listing) (e : Entry) : (e.addTo l).name = l.name ∧ (e.addTo l).isInterface = l.isInterface := by
  cases e with
  | method s result? name erased? =>
    rw [Entry.addTo]
    split <;> exact ⟨rfl, rfl⟩
  | _ => exact ⟨rfl, rfl⟩

/-- A run over entries adds their members one after the other. -/
theorem readMembers_entries (hname : l.name = className.name) (entries : List Entry)
    (haccess : l.isInterface = true → ∀ e ∈ entries, e.isMember = true → "public" ∈ e.words ∨ "private" ∈ e.words)
    (rest : List (List Char)) : readMembers l none (entries.flatMap (Entry.lines className) ++ rest) =
      readMembers (entries.foldl Entry.addTo l) none rest := by
  induction entries generalizing l with
  | nil => rfl
  | cons e entries ih =>
    obtain ⟨hframe, hkind⟩ := e.addTo_frame l
    rw [List.flatMap_cons, List.append_assoc, readMembers_entry hname e fun h => haccess h e List.mem_cons_self,
      ih (hframe.trans hname) fun h other hother => haccess (hkind ▸ h) other (List.mem_cons_of_mem _ hother)]
    rfl

end Reading

/-- The methods that are read: those that have another name than their class. -/
lemma methods_foldl_addTo (entries : List Entry) (l : Listing) :
    (entries.foldl Entry.addTo l).methods =
      l.methods ++ (entries.filterMap Entry.method?).filter fun m => m.name ≠ l.name := by
  induction entries generalizing l with
  | nil => simp
  | cons e entries ih =>
    rw [List.foldl_cons, ih, (e.addTo_frame l).1]
    cases e with
    | method s result? name erased? =>
      by_cases hname : name.name = l.name <;> simp [Entry.addTo, Entry.method?, hname]
    | _ => rfl

/-- Without methods that have the name of their class, all members are read. -/
lemma foldl_addTo {entries : List Entry} {l : Listing} (h : ∀ m ∈ entries.filterMap Entry.method?, m.name ≠ l.name) :
    entries.foldl Entry.addTo l = { l with
      fields := l.fields ++ entries.filterMap Entry.field?
      methods := l.methods ++ entries.filterMap Entry.method?
      constructors := l.constructors ++ entries.filterMap Entry.constructor? } := by
  induction entries generalizing l with
  | nil => simp
  | cons e entries ih =>
    have hmore : ∀ m ∈ entries.filterMap Entry.method?, m.name ≠ l.name := fun m hm =>
      h m (((List.sublist_cons_self e entries).filterMap Entry.method?).subset hm)
    rw [List.foldl_cons, ih (by rwa [(e.addTo_frame l).1])]
    cases e with
    | method s result? name erased? =>
      have hname : name.name ≠ l.name := h _ (List.mem_filterMap.2 ⟨_, List.mem_cons_self, rfl⟩)
      simp [Entry.addTo, List.filterMap_cons, Entry.field?, Entry.method?, Entry.constructor?, hname]
    | _ => simp [Entry.addTo, List.filterMap_cons, Entry.field?, Entry.method?, Entry.constructor?]

/-! ## Listings -/

/-- A header declares a class without members. -/
lemma members_of_header? {line : List Char} {l : Listing} (h : header? line = some l) :
    l.fields = [] ∧ l.methods = [] ∧ l.constructors = [] := by
  have hread : ∀ seen cs, readHeader? seen cs = some l → ∃ words kind name rest, l = .ofHeader words kind name rest := by
    intro seen cs h
    fun_induction readHeader? seen cs with
    | case1 => exact ⟨_, _, _, _, (Option.some.inj h).symm⟩
    | case2 seen cs word rest kind? hkind hword hchars ih => exact ih h
    | _ => cases h
  obtain ⟨words, kind, name, rest, rfl⟩ := hread _ _ h
  rw [Listing.ofHeader]
  split
  split <;> exact ⟨rfl, rfl, rfl⟩

/-- Which members are recovered: exactly if no method has the name of its class, all of them, each list in its order, with
the modifiers that are written and the types of the descriptors. -/
theorem members_recovered_iff {line : List Char} {l : Listing} {className : QualifiedName} {entries : List Entry}
    (hheader : header? line = some l) (hline : Text.isSingleLine line = true) (hname : l.name = className.name)
    (haccess : l.isInterface = true → ∀ e ∈ entries, e.isMember = true → "public" ∈ e.words ∨ "private" ∈ e.words) :
    Listing.ofOutput (output (line :: (entries.flatMap (Entry.lines className) ++ [['}']]))) =
        .ok (some { l with
          fields := entries.filterMap Entry.field?
          methods := entries.filterMap Entry.method?
          constructors := entries.filterMap Entry.constructor? }) ↔
      ∀ m ∈ entries.filterMap Entry.method?, m.name ≠ className.name := by
  obtain ⟨hfields, hmethods, hconstructors⟩ := members_of_header? hheader
  have hlines : ∀ line ∈ entries.flatMap (Entry.lines className) ++ [['}']], Text.isSingleLine line = true := by
    refine List.forall_mem_append.2 ⟨fun line hmem => ?_, List.forall_mem_singleton.2 (by decide)⟩
    obtain ⟨e, -, hmem⟩ := List.mem_flatMap.1 hmem
    exact e.isSingleLine_lines className line hmem
  have hclose : ∀ l, readMembers l none [['}']] = .ok l := fun l => rfl
  have hread : Listing.ofOutput (output (line :: (entries.flatMap (Entry.lines className) ++ [['}']]))) =
      .ok (some (entries.foldl Entry.addTo l)) := by
    rw [ofOutput_output hheader hline hlines, readMembers_entries hname entries haccess, hclose]
    rfl
  rw [hread, ← hname]
  constructor
  · intro heq
    -- A method with the name of the class is missing among the methods that are read.
    have hsome := congrArg Listing.methods (Option.some.inj (Except.ok.inj heq))
    rw [methods_foldl_addTo, hmethods, List.nil_append] at hsome
    simpa using List.filter_eq_self.1 hsome
  · intro h
    rw [foldl_addTo h, hfields, hmethods, hconstructors]
    rfl

/-- The header `public interface p.Sorter`. -/
def sorterHeader : Header where
  words := ["public"]
  isInterface := true
  name := "p.Sorter"
  areModifiers := by decide
  isName := by decide +kernel
  areParameters := isArguments_of_none
  extends_one := nofun
  implements_none _ := rfl

def sorterName : QualifiedName :=
  ⟨⟨"p", by decide +kernel⟩, [⟨"Sorter", by decide +kernel⟩]⟩

/-- A constant, a static initializer and the method
`public abstract <T extends p.Item<? super T>> T[] sort(T[], int) throws p.Failure`. -/
def sorterEntries : List Entry :=
  let item : QualifiedName := ⟨⟨"p", by decide +kernel⟩, [⟨"Item", by decide +kernel⟩]⟩
  let failure : QualifiedName := ⟨⟨"p", by decide +kernel⟩, [⟨"Failure", by decide +kernel⟩]⟩
  let parameter : Identifier := ⟨"T", by decide +kernel⟩
  let typeVariable : WrittenType := .ofClass (.named ⟨parameter, []⟩ [])
  [.field [⟨"public", by decide⟩, ⟨"static", by decide⟩, ⟨"final", by decide⟩] (.ofClass (.named item []))
      ⟨"FIRST", by decide +kernel⟩ (.ofClass item),
    .blankLine,
    .staticInitializer,
    .method
      { words := [⟨"public", by decide⟩, ⟨"abstract", by decide⟩]
        typeParameters := [⟨parameter, [.named item [.super typeVariable]]⟩]
        parameters := [.array typeVariable, .primitive .int]
        thrown := [.named failure []]
        erased := [.array (.ofClass item), .primitive .int] }
      (some (.array typeVariable)) ⟨"sort", by decide +kernel⟩ (some (.array (.ofClass item)))]

theorem members_recovered_sorter :
    Listing.ofOutput (output (sorterHeader.line :: (sorterEntries.flatMap (Entry.lines sorterName) ++ [['}']]))) =
      .ok (some
        { name := "p.Sorter"
          modifiers := ⟨0x601⟩
          isInterface := true
          fields := [⟨"FIRST", "p.Item", ⟨0x19⟩⟩]
          methods := [⟨"sort", ["p.Item[]", "int"], "p.Item[]", ⟨0x401⟩⟩] }) := by
  have hname : (Listing.ofHeader sorterHeader.words sorterHeader.kind sorterHeader.name.toList sorterHeader.rest).name =
      sorterName.name := by decide +kernel
  have haccess : ∀ e ∈ sorterEntries, e.isMember = true → "public" ∈ e.words ∨ "private" ∈ e.words := by
    simp only [sorterEntries, List.forall_mem_cons]
    decide +kernel
  have hread := (members_recovered_iff sorterHeader.header?_line sorterHeader.isSingleLine_line hname
    fun _ => haccess).2 (by decide +kernel)
  rw [hread]
  decide +kernel

end Typings.Javap
