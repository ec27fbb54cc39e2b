import StreamNames.Unicode.Age
import StreamNames.Unicode.BinaryProperty
import StreamNames.Unicode.Script

/-!
# Sets of characters by name

A set of characters is named either by one word, which is a binary property, a general
category or a script, or by a property and a value. Names are compared loosely: case,
blanks, hyphens, underscores and a leading `is` do not count.

- `NamedSet.named`: the set for one word.
- `NamedSet.valued`: the set for a property and a value.
-/

namespace StreamNames.Unicode

/-- A set of characters. `runs` says how many stretches of code points it has. -/
structure NamedSet where
  holds : Char → Bool
  runs : Nat

/-- Why a name denotes no set. -/
inductive NameError where
  /-- No such property, or none that is a set. -/
  | property
  /-- The property has no such value. -/
  | value
  deriving DecidableEq, Repr

/-! ## Comparing names -/

/-- The characters of a name that count. A leading `is` is dropped, but not from `isc`,
which is a name of its own. -/
def looseName (name : String) : String :=
  let kept (cs : List Char) := (cs.filter fun c =>
    c.toNat < 0x80 && c ≠ ' ' && c ≠ '_' && c ≠ '-').map Char.toLower
  match name.toList with
  | i :: s :: rest =>
    if i.toLower = 'i' ∧ s.toLower = 's' then
      if kept rest = ['c'] then "isc" else String.ofList (kept rest)
    else String.ofList (kept (i :: s :: rest))
  | short => String.ofList (kept short)

/-- Whether a loose name is one of the given names. -/
def isNamed (loose : String) (names : List String) : Bool :=
  names.any fun name => looseName name == loose

/-- Names of properties that classify characters in other ways than by membership, or by
sets that are not supported. -/
def otherProperties : List String := (tableWords "
accountingnumeric bidiclass bidimirrored bidimirroringglyph bidim bidipairedbracket
bidipairedbrackettype bc block blk bmg bpb bpt canonicalcombiningclass casefolding ccc ce cf
changeswhennfkccasefolded cjkaccountingnumeric cjkcompatibilityvariant cjkiicore cjkirggsource
cjkirghsource cjkirgjsource cjkirgkpsource cjkirgksource cjkirgmsource cjkirgssource
cjkirgtsource cjkirguksource cjkirgusource cjkirgvsource cjkothernumeric cjkprimarynumeric
cjkrsunicode compex compositionexclusion cwkcf decompositionmapping decompositiontype dm dt ea
eastasianwidth equideo equivalentunifiedideograph expandsonnfc expandsonnfd expandsonnfkc
expandsonnfkd fcnfkc fcnfkcclosure fullcompositionexclusion hangulsyllabletype hst incb
indicconjunctbreak indicpositionalcategory indicsyllabiccategory inpc insc isc isocomment
jamoshortname jg joininggroup joiningtype jsn jt kaccountingnumeric kcompatibilityvariant
kehaltseq kehcat kehcore kehdesc kehfunc kehfval kehhg kehifao kehjsesh kehnomirror kehnorotate
kehunik kiicore kirggsource kirghsource kirgjsource kirgkpsource kirgksource kirgmsource
kirgssource kirgtsource kirguksource kirgusource kirgvsource kothernumeric kprimarynumeric
krsunicode lb lc linebreak lowercasemapping na na1 name namealias nfcqc nfcquickcheck nfdqc
nfdquickcheck nfkccasefold nfkccf nfkcqc nfkcquickcheck nfkcscf nfkcsimplecasefold nfkdqc
nfkdquickcheck nt numerictype numericvalue nv scf sfc simplecasefolding
simplelowercasemapping simpletitlecasemapping simpleuppercasemapping slc stc suc tc
titlecasemapping uc unicode1name unicoderadicalstroke uppercasemapping urs verticalorientation
vo xonfc xonfd xonfkc xonfkd".toList).map String.ofList

namespace NamedSet

/-- The characters whose general category is among the given ones. -/
def ofCategories (categories : List String) : NamedSet :=
  ⟨fun c => categories.contains (generalCategory c), generalCategories.stretches categories⟩

/-- The set that a loose name denotes as a general category or a group of them. -/
def category? (loose : String) : Option NamedSet :=
  if loose = "any" then some ⟨fun _ => true, 1⟩
  else if loose = "ascii" then some ⟨fun c => c.toNat < 0x80, 1⟩
  else if loose = "assigned" then
    some ⟨fun c => generalCategory c != "Cn", generalCategories.stretches ["Cn"]⟩
  else (categoryNames.find? fun entry => isNamed loose entry.1).map fun entry =>
    ofCategories entry.2

/-- The script that a loose name denotes, by its code. -/
def scriptCode? (loose : String) : Option String :=
  (scriptNames.find? (isNamed loose)).bind List.head?

/-- The characters of a script. -/
def ofScript (code : String) : NamedSet :=
  ⟨fun c => script c == code, scripts.stretches [code]⟩

/-- The set that a single word denotes. The words `cf`, `sc` and `lc` abbreviate both a
property and a category, and denote the category; so does the name of surrogates, which
are not characters. -/
def named (name : String) : Except NameError NamedSet :=
  let loose := looseName name
  match binaryProperties.find? (fun property => isNamed loose property.names) with
  | some property => .ok ⟨property.holds, property.runs⟩
  | none =>
    match category? loose with
    | some set => .ok set
    | none =>
      match scriptCode? loose with
      | some code => .ok (ofScript code)
      | none =>
        if isNamed loose (["Cs", "Surrogate"] ++ emptyScriptNames) then .error .value
        else .error .property

/-- The characters that some version up to the given one assigned. -/
def ofAge (version : String) : NamedSet :=
  let upTo := ages.takeWhile (· ≠ version) ++ [version]
  ⟨fun c => upTo.contains (age c), assignments.stretches upTo⟩

/-- The names of a version: `V3_0` is also written `3.0`. -/
def ageNames (version : String) : List String :=
  [version, String.ofList ((version.toList.drop 1).map fun c => if c = '_' then '.' else c)]

/-- The set of characters whose class, one of those with the given names, has a loose name. -/
def ofClass? (classOf : Char → String) (table : Partition) (names : List (List String))
    (loose : String) : Option NamedSet :=
  ((names.find? (isNamed loose)).bind List.head?).map fun code =>
    ⟨fun c => classOf c == code, table.stretches [code]⟩

/-- The set that a property and a value denote. -/
def valued (property value : String) : Except NameError NamedSet :=
  let property := looseName property
  let value := looseName value
  let orUnknown (set : Option NamedSet) : Except NameError NamedSet :=
    match set with
    | some set => .ok set
    | none => .error .value
  if isNamed property ["gc", "General_Category"] then orUnknown (category? value)
  else if isNamed property ["sc", "Script"] then
    orUnknown ((scriptCode? value).map ofScript)
  else if isNamed property ["scx", "Script_Extensions"] then
    orUnknown ((scriptCode? value).map fun code =>
      ⟨fun c => (scriptsOf c).contains code, scripts.stretches [code]⟩)
  else if isNamed property ["age"] then
    orUnknown ((ages.find? fun version => isNamed value (ageNames version)).map ofAge)
  else if isNamed property ["GCB", "Grapheme_Cluster_Break"] then
    orUnknown (ofClass? graphemeBreak graphemeBreaks graphemeBreakNames value)
  else if isNamed property ["WB", "Word_Break"] then
    orUnknown (ofClass? wordBreak wordBreaks wordBreakNames value)
  else if isNamed property ["SB", "Sentence_Break"] then
    orUnknown (ofClass? sentenceBreak sentenceBreaks sentenceBreakNames value)
  else if otherProperties.contains property
      || binaryProperties.any (fun known => isNamed property known.names) then
    .error .value
  else .error .property

/-- The decimal digits. -/
def digits : NamedSet := ⟨isDecimalDigit, 71⟩

/-- The blanks. -/
def blanks : NamedSet := ⟨isWhitespace, 10⟩

/-- The characters of words. -/
def wordCharacters : NamedSet := ⟨isWordCharacter, 796⟩

end NamedSet

end StreamNames.Unicode
