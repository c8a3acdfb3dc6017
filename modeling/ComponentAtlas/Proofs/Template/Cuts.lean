import ComponentAtlas.Proofs.Markup.Bytewise.Tokens
import ComponentAtlas.Proofs.Text.Cutting

/-!
# Templates with checked cuts

Attributes are sorted by cutting their names and values into parts. Here every cut is checked: a cut
that is out of order, outside the text or inside a character has no result, and then neither has the
template. All cuts but one are made next to a mark that has been found, so they fall between
characters; the exception is the cut behind the first five bytes of a name.

* `cut?`: the text between two byte offsets;
* `localName?`, `plainName?`, `interpolated?`, `between?`, `clausesFrom?`, `splitWord?`, `splitAlias?`:
  the functions that cut;
* `hoist?`, `add?`, `visit?`, `read?`: what is made of the parts;
* `read?_eq`: the template read with checked cuts is the template, whenever there is one.
-/

namespace ComponentAtlas.Template.Bytewise

open ComponentAtlas.Text ComponentAtlas.Source

/-! ### Cuts -/

/-- The text between two byte offsets of a text. -/
def cut? (cs : List Char) (start stop : ℕ) : Option (List Char) :=
  (⟨cs, byteLength cs⟩ : Window).slice? start stop

/-- What follows the name space of a name. -/
def localName? (name : String) : Option String :=
  match name.toList with
  | ':' :: rest =>
    match splitOnce ':' rest with
    | some (ns, _) => (cut? rest (byteLength ns + 1) (byteLength rest)).map String.ofList
    | none => some name
  | _ => some name

/-- The attribute name without a mark `data-` in front of it. -/
def plainName? (name : String) : Option String :=
  let cs := name.toList
  if 5 < byteLength cs then do
    let mark ← cut? cs 0 5
    if mark.map Char.toLower == "data-".toList then
      let rest ← cut? cs 5 (byteLength cs)
      return String.ofList rest
    else return name
  else some name

/-- Whether a text has an interpolation. -/
def interpolated? (value : String) : Option Bool :=
  match Markup.splitAtLiteral ['\x7b', '\x7b'] value.toList with
  | some (before, _) => do
    let rest ← cut? value.toList (byteLength before) (byteLength value.toList)
    return containsLiteral ['\x7d', '\x7d'] rest
  | none => some false

/-! ### Names of bindings -/

/-- The form of a name that begins with an opening mark. It is plain unless the closing mark stands at
its end, with something in between. -/
def between? (form : String → Form) (opening closing name : String) : Option Form :=
  let cs := name.toList
  if endsWith name closing && byteLength opening.toList + byteLength closing.toList < byteLength cs then do
    let inner ← cut? cs (byteLength opening.toList) (byteLength cs - byteLength closing.toList)
    return form (String.ofList inner)
  else return .plain

/-- The form of an attribute name. -/
def formOf? (name : String) : Option Form :=
  match behind? "bind-" name with
  | some rest => some (.input rest)
  | none =>
    match behind? "let-" name with
    | some rest => some (.variable rest)
    | none =>
      match (behind? "ref-" name).or (behind? "#" name) with
      | some rest => some (.reference rest)
      | none =>
        match behind? "on-" name with
        | some rest => some (.output rest)
        | none =>
          match behind? "bindon-" name with
          | some rest => some (.twoWay rest)
          | none =>
            if startsWith name "[(" then between? .twoWay "[(" ")]" name
            else if startsWith name "[" then between? .input "[" "]" name
            else if startsWith name "(" then between? .output "(" ")" name
            else some .plain

/-! ### The language of `*` attributes -/

/-- The clauses of `value` from the one on that begins at the offset `start`. The scan has come to the
offset `at_`, where `cs` stands, with the given depth and quote. -/
def clausesFrom? (value : List Char) (start at_ : ℕ) (depth : Int) (quote : Option Char) :
    List Char → Option (List (List Char))
  | [] => do
    let last ← cut? value start (byteLength value)
    return [last]
  | c :: cs =>
    let keep (depth : Int) (quote : Option Char) := clausesFrom? value start (at_ + c.utf8Size) depth quote cs
    match quote with
    | some q => if c == q then keep depth none else keep depth quote
    | none =>
      if c == '\'' || c == '"' || c == '\u0060' then keep depth (some c)
      else if c == '(' || c == '[' || c == '\x7b' then keep (depth + 1) none
      else if c == ')' || c == ']' || c == '\x7d' then keep (depth - 1) none
      else if (c == ';' || c == ',') && depth == 0 then do
        let clause ← cut? value start at_
        let more ← clausesFrom? value (at_ + 1) (at_ + c.utf8Size) depth none cs
        return clause :: more
      else keep depth none

/-- The word at the start of a text, with what follows it. -/
def splitWord? (cs : List Char) : Option (List Char × List Char) := do
  let stop := byteLength (cs.takeWhile isWordChar)
  let word ← cut? cs 0 stop
  let rest ← cut? cs stop (byteLength cs)
  return (word, rest)

/-- An expression and the alias that an `as` behind it gives to its value. -/
def splitAlias? (cs : List Char) : Option (List Char × Option (List Char)) :=
  match splitAtLast " as ".toList cs with
  | none => some (cs, none)
  | some (before, _) => do
    let after ← cut? cs (byteLength before + 4) (byteLength cs)
    let name := trim after
    if !name.isEmpty && name.all isAliasChar then
      let expression ← cut? cs 0 (byteLength before)
      return (trim expression, some name)
    else return (cs, none)

/-- An expression for an attribute, whose value may get an alias. -/
def bindExpression? (h : Hoist) (key : String) (cs : List Char) : Option Hoist := do
  let (expression, name) ← splitAlias? cs
  let h := h.bindAttr key (String.ofList expression)
  match name with
  | some name => return h.bindVariable (String.ofList name) key
  | none => return h

/-- The effect of a clause that begins with a key. -/
def addKey? (h : Hoist) (cs : List Char) : Option Hoist := do
  let (word, rest) ← splitWord? cs
  let key := (word.reverse.dropWhile (· == ':')).reverse
  let expression := trim ((trimStart rest).dropWhile (· == ':'))
  match afterKeyword "as" expression with
  | some name => return h.bindVariable (String.ofList (trim name)) (String.ofList key)
  | none => bindExpression? h (h.directive ++ String.ofList (capitalize key)) expression

/-- The variable of a `let` clause with its value, and the rest of the clause. -/
def letClause? (cs : List Char) : Option (String × String × List Char) := do
  let (name, rest) ← splitWord? cs
  match trimStart rest with
  | '=' :: assigned =>
    let (value, rest) ← splitWord? (trimStart assigned)
    return (String.ofList name, String.ofList value, trim rest)
  | rest => return (String.ofList name, "$implicit", trim rest)

/-- The effect of one clause. -/
def addClause? (h : Hoist) (first : Bool) (clause : List Char) : Option Hoist :=
  let cs := trim clause
  if cs.isEmpty then some h
  else
    match afterKeyword "let" cs with
    | some declared => do
      let (name, value, rest) ← letClause? declared
      let h := h.bindVariable name value
      if rest.isEmpty then return h else addKey? h rest
    | none => if first then bindExpression? h h.directive cs else addKey? h cs

/-- The attributes and variables of a `*` attribute. -/
def hoist? (directive value : String) (span : Span) : Option Hoist := do
  let start : Hoist := ⟨directive, span, [.text ⟨directive, "", span, none, false⟩], []⟩
  match ← clausesFrom? value.toList 0 0 0 none value.toList with
  | [] => return start
  | c :: cs =>
    let h ← addClause? start true c
    cs.foldlM (fun h k => addClause? h false k) h

/-! ### Elements -/

/-- An attribute that is neither a `*` attribute nor a localisation marker. -/
def addBinding? (s : Sorted) (isTemplate : Bool) (a : Markup.Attribute) (name : String) : Option Sorted := do
  match ← formOf? name with
  | .input target => return s.addInput (.oneWay target a.value a.span)
  | .twoWay target =>
    return (s.addInput ⟨target, .twoWay, a.value, a.span⟩).addOutput ⟨target ++ "Change", a.value, a.span⟩
  | .output target => return s.addOutput ⟨target, a.value, a.span⟩
  | .variable target =>
    if isTemplate then return s.addVariable target a.value a.span
    else return s.report a.span "\"let-\" is only supported on ng-template elements."
  | .reference target => return s.addReference target a.value a.span
  | .plain =>
    if ← interpolated? a.value then return s.addInput (.oneWay name a.value a.span)
    else return s.addText (.ofMarkup a)

/-- One more attribute. -/
def add? (inert isTemplate : Bool) (s : Sorted) (a : Markup.Attribute) : Option Sorted :=
  if inert then some (s.addText (.ofMarkup a))
  else
    match dropStart? "*" a.name with
    | some directive =>
      if s.hoist.isSome then
        some (s.report a.span
          "Can't have multiple template bindings on one element. Use only one attribute prefixed with *")
      else do
        let hoist ← hoist? directive a.value a.span
        return { s with hoist := some hoist }
    | none =>
      if a.name == "i18n" || startsWith a.name "i18n-" then
        some (s.addText { TextAttr.ofMarkup a with i18n := true })
      else do
        let name ← plainName? a.name
        addBinding? s isTemplate a name

/-- The nodes of a text. -/
def textNode? (inert : Bool) (value : String) (span : Span) : Option (List Node) :=
  if (trim value.toList).isEmpty then some []
  else do
    let interpolated ← interpolated? value
    if interpolated && !inert then return [.boundText value span] else return [.text value span]

mutual

/-- The contribution of a node. -/
def visit? (inert : Bool) : Markup.Node → Option Yield
  | .element head children span endSpan => do
    let name ← localName? head.name
    if name == "script" then return {}
    else if name == "style" then return { styles := [textOf children] }
    else
      let s ← head.attrs.foldlM (add? inert (Markup.Tag.isNgTemplate head.name)) {}
      let inner ← visitAll? (inert || marksInert head) children
      return { nodes := [elementNode head ⟨span, head.startSpan, endSpan⟩ s inner.nodes]
               problems := s.problems ++ inner.problems
               styles := inner.styles }
  | .text value span => do
    let nodes ← textNode? inert value span
    return { nodes }
  | .comment _ _ => some {}
  | .expansion (.mk switch kind cases span) => some { nodes := [.icu (.mk switch kind cases span) span] }

/-- The contribution of several nodes. -/
def visitAll? (inert : Bool) : List Markup.Node → Option Yield
  | [] => some {}
  | n :: ns => do
    let y ← visit? inert n
    let rest ← visitAll? inert ns
    return y.append rest

end

/-- The template of a source. -/
def read? (source : String) : Option Yield := do
  let doc ← Markup.Bytewise.document? source
  let y ← visitAll? false doc.nodes
  return { y with problems := doc.problems ++ y.problems }

/-! ### Cuts between characters -/

theorem cut?_append (as bs cs : List Char) :
    cut? (as ++ (bs ++ cs)) (byteLength as) (byteLength as + byteLength bs) = some bs := by
  have hwhole : (⟨as ++ (bs ++ cs), byteLength (as ++ (bs ++ cs))⟩ : Window).At (byteLength as) (bs ++ cs) :=
    ⟨⟨as, [], by simp, rfl⟩, byteLength_append _ _⟩
  exact hwhole.slice?

theorem cut?_left (as bs : List Char) : cut? (as ++ bs) 0 (byteLength as) = some as := by
  simpa using cut?_append [] as bs

theorem cut?_right (as bs : List Char) :
    cut? (as ++ bs) (byteLength as) (byteLength (as ++ bs)) = some bs := by
  simpa using cut?_append as bs []

theorem localName?_eq (name : String) : localName? name = some (Markup.Tag.localName name) := by
  rw [localName?, Markup.Tag.localName, Markup.Tag.parts?]
  cases name.toList with
  | nil => rfl
  | cons c rest =>
    by_cases hc : c = ':'
    · subst hc
      cases hsplit : splitOnce ':' rest with
      | none => simp [hsplit]
      | some parts =>
        obtain ⟨ns, behind⟩ := parts
        have hcut := cut?_right (ns ++ [':']) behind
        have hcolon : byteLength [':'] = 1 := rfl
        rw [byteLength_append, hcolon, List.append_assoc, List.singleton_append,
          ← splitOnce_append hsplit] at hcut
        simp [hsplit, hcut]
    · simp [hc]

/-- The one cut that may fail. -/
theorem plainName?_eq (name : String) : plainName? name = (plainName name).toOption := by
  have hmark : cut? name.toList 0 5 =
      (dropBytes? 5 name.toList).map fun rest => name.toList.take (name.toList.length - rest.length) := by
    cases hdrop : dropBytes? 5 name.toList <;> simp [cut?, Window.slice?, dropBytes?, hdrop]
  unfold plainName? plainName
  dsimp only
  split
  · rename_i hlong
    rw [if_neg (Nat.not_le.2 hlong), hmark]
    cases hdrop : dropBytes? 5 name.toList with
    | none => rfl
    | some rest =>
      obtain ⟨mark, hname, hfive⟩ := dropBytes?_eq_some_iff.1 hdrop
      have hright := cut?_right mark rest
      rw [← hname, hfive] at hright
      simp only [Option.map_some, Option.bind_eq_bind, Option.bind_some, hright]
      split <;> rfl
  · rename_i hshort
    rw [if_pos (Nat.not_lt.1 hshort)]
    rfl

theorem interpolated?_eq (value : String) : interpolated? value = some (interpolated value) := by
  unfold interpolated? interpolated
  cases hsplit : Markup.splitAtLiteral ['\x7b', '\x7b'] value.toList with
  | none => rfl
  | some parts =>
    obtain ⟨before, behind⟩ := parts
    have hvalue := Markup.splitAtLiteral_append hsplit
    have hcut := cut?_right before (['\x7b', '\x7b'] ++ behind)
    rw [List.append_assoc] at hvalue
    rw [← hvalue] at hcut
    simp [hcut, containsLiteral, dropLiteral?]

/-- A closing mark that is shorter than what follows an opening one stands behind it. -/
theorem exists_eq_append_of_endsWith {opening closing rest : String} (h : endsWith (opening ++ rest) closing)
    (hlong : byteLength closing.toList < byteLength rest.toList) : ∃ inner, rest = inner ++ closing := by
  obtain ⟨before, hbefore⟩ := Option.isSome_iff_exists.1 h
  have hcut : before.toList ++ closing.toList = opening.toList ++ rest.toList := by
    simpa using congrArg String.toList (dropEnd?_eq_some_iff.1 hbefore).symm
  rcases List.suffix_or_suffix_of_suffix ⟨_, rfl⟩ ⟨_, hcut⟩ with hshorter | hshorter
  · obtain ⟨more, hmore⟩ := hshorter
    rw [← hmore, byteLength_append] at hlong
    omega
  · obtain ⟨inner, hinner⟩ := hshorter
    refine ⟨String.ofList inner, String.toList_inj.1 ?_⟩
    simpa using hinner.symm

theorem between?_eq (form : String → Form) (opening closing name : String) (h : startsWith name opening) :
    between? form opening closing name =
      some (((Template.between? opening closing name).map form).getD .plain) := by
  obtain ⟨rest, hrest⟩ := Option.isSome_iff_exists.1 h
  unfold between? Template.between?
  rw [hrest]
  obtain rfl := dropStart?_eq_some_iff.1 hrest
  dsimp only
  cases hinner : dropEnd? closing rest with
  | none =>
    -- A closing mark at the end would overlap the opening one, so the name is too short for both.
    rw [if_neg]
    · rfl
    · intro hcond
      simp only [Bool.and_eq_true, decide_eq_true_eq, String.toList_append, byteLength_append] at hcond
      obtain ⟨inner, hrest⟩ := exists_eq_append_of_endsWith hcond.1 (by omega)
      rw [dropEnd?_eq_some_iff.2 hrest] at hinner
      cases hinner
  | some inner =>
    obtain rfl := dropEnd?_eq_some_iff.1 hinner
    have hends : endsWith (opening ++ (inner ++ closing)) closing = true := by
      rw [endsWith, dropEnd?_eq_some_iff.2 String.append_assoc.symm]
      rfl
    have hcut := cut?_append opening.toList inner.toList closing.toList
    have hbefore : byteLength opening.toList + (byteLength inner.toList + byteLength closing.toList) -
        byteLength closing.toList = byteLength opening.toList + byteLength inner.toList := by omega
    simp only [hends, Bool.true_and, String.toList_append, byteLength_append, decide_eq_true_eq, hbefore,
      hcut, Option.bind_eq_bind, Option.bind_some, String.ofList_toList]
    by_cases hempty : inner = ""
    · subst hempty
      simp
    · have hpos : 0 < byteLength inner.toList := by
        refine Nat.pos_of_ne_zero fun hzero => hempty (String.toList_inj.1 ?_)
        exact eq_nil_of_byteLength hzero
      rw [if_pos (by omega), if_neg (by simpa using hempty)]
      rfl

theorem formOf?_eq (name : String) : formOf? name = some (Form.ofName name) := by
  have htwoWay := between?_eq .twoWay "[(" ")]" name
  have hinput := between?_eq .input "[" "]" name
  have houtput := between?_eq .output "(" ")" name
  unfold formOf? Form.ofName
  cases behind? "bind-" name with
  | some rest => rfl
  | none =>
    cases behind? "let-" name with
    | some rest => rfl
    | none =>
      cases (behind? "ref-" name).or (behind? "#" name) with
      | some rest => rfl
      | none =>
        cases behind? "on-" name with
        | some rest => rfl
        | none =>
          cases behind? "bindon-" name with
          | some rest => rfl
          | none =>
            dsimp only
            split
            · rename_i hopen
              exact htwoWay hopen
            · split
              · rename_i hopen
                exact hinput hopen
              · split
                · rename_i hopen
                  exact houtput hopen
                · rfl

theorem splitWord?_eq (cs : List Char) : splitWord? cs = some (splitWord cs) := by
  have hcut := List.takeWhile_append_dropWhile (p := isWordChar) (l := cs)
  have hleft := cut?_left (cs.takeWhile isWordChar) (cs.dropWhile isWordChar)
  have hright := cut?_right (cs.takeWhile isWordChar) (cs.dropWhile isWordChar)
  rw [hcut] at hleft hright
  simp [splitWord?, splitWord, hleft, hright]

theorem splitAtLast_append {lit cs before behind : List Char}
    (h : splitAtLast lit cs = some (before, behind)) :
    cs = before ++ lit ++ behind := by
  induction cs generalizing before behind with
  | nil => cases h
  | cons c cs ih =>
    rw [splitAtLast] at h
    split at h
    · rename_i before' behind' hlast
      cases h
      simp [ih hlast]
    · obtain ⟨rest, hdrop, hpair⟩ := Option.map_eq_some_iff.1 h
      cases hpair
      rw [List.nil_append]
      exact eq_append_of_dropLiteral? hdrop

theorem splitAlias?_eq (cs : List Char) : splitAlias? cs = some (splitAlias cs) := by
  unfold splitAlias? splitAlias
  cases hlast : splitAtLast " as ".toList cs with
  | none => rfl
  | some parts =>
    obtain ⟨before, after⟩ := parts
    have hcs := splitAtLast_append hlast
    have hleft := cut?_left before (" as ".toList ++ after)
    have hright := cut?_right (before ++ " as ".toList) after
    have hmark : byteLength " as ".toList = 4 := rfl
    rw [← List.append_assoc, ← hcs] at hleft
    rw [← hcs, byteLength_append, hmark] at hright
    simp only [hleft, hright, Option.bind_eq_bind, Option.bind_some]
    split <;> rfl

/-- The clauses with more text in front of the first one. -/
def prepend (word : List Char) : List (List Char) → List (List Char)
  | [] => [word]
  | w :: ws => (word ++ w) :: ws

theorem prepend_append (as bs : List Char) (clauses : List (List Char)) :
    prepend (as ++ bs) clauses = prepend as (prepend bs clauses) := by
  cases clauses <;> simp [prepend]

theorem prepend_nil {clauses : List (List Char)} (h : clauses ≠ []) : prepend [] clauses = clauses := by
  cases clauses with
  | nil => exact absurd rfl h
  | cons w ws => rfl

theorem clausesFrom_ne_nil (depth : Int) (quote : Option Char) (cs : List Char) :
    clausesFrom depth quote cs ≠ [] := by
  cases cs with
  | nil => simp [clausesFrom]
  | cons c cs =>
    have hkeep : ∀ (depth : Int) (quote : Option Char), prepend [c] (clausesFrom depth quote cs) ≠ [] := by
      intro depth quote
      cases clausesFrom depth quote cs <;> simp [prepend]
    unfold clausesFrom
    cases quote with
    | some q =>
      dsimp only
      split
      · exact hkeep depth none
      · exact hkeep depth (some q)
    | none =>
      dsimp only
      repeat' split
      all_goals first | exact hkeep _ _ | exact List.cons_ne_nil _ _

theorem clausesFrom?_eq (before word cs : List Char) (depth : Int) (quote : Option Char) :
    clausesFrom? (before ++ (word ++ cs)) (byteLength before)
      (byteLength before + byteLength word) depth quote cs =
      some (prepend word (clausesFrom depth quote cs)) := by
  induction cs generalizing before word depth quote with
  | nil =>
    have hcut := cut?_right before word
    rw [byteLength_append] at hcut
    simp [clausesFrom?, clausesFrom, prepend, hcut]
  | cons c cs ih =>
    -- A character that does not separate belongs to the clause that has begun.
    have hkeep : ∀ (depth : Int) (quote : Option Char),
        clausesFrom? (before ++ (word ++ c :: cs)) (byteLength before)
          (byteLength before + byteLength word + c.utf8Size) depth quote cs =
        some (prepend word (prepend [c] (clausesFrom depth quote cs))) := by
      intro depth quote
      have hword : before ++ (word ++ [c] ++ cs) = before ++ (word ++ c :: cs) := by simp
      have hsize : byteLength [c] = c.utf8Size := by simp
      rw [← prepend_append, ← ih before (word ++ [c]) depth quote, hword, byteLength_append, hsize,
        Nat.add_assoc]
    unfold clausesFrom? clausesFrom
    cases quote with
    | some q =>
      by_cases hquote : c == q
      · simp only [if_pos hquote]
        exact hkeep depth none
      · simp only [if_neg hquote]
        exact hkeep depth (some q)
    | none =>
      by_cases hquote : c == '\'' || c == '"' || c == '\u0060'
      · simp only [if_pos hquote]
        exact hkeep depth (some c)
      · by_cases hopen : c == '(' || c == '[' || c == '\x7b'
        · simp only [if_neg hquote, if_pos hopen]
          exact hkeep (depth + 1) none
        · by_cases hclose : c == ')' || c == ']' || c == '\x7d'
          · simp only [if_neg hquote, if_neg hopen, if_pos hclose]
            exact hkeep (depth - 1) none
          · by_cases hends : (c == ';' || c == ',') && depth == 0
            · simp only [if_neg hquote, if_neg hopen, if_neg hclose, if_pos hends]
              have hsize : c.utf8Size = 1 := by
                simp only [Bool.and_eq_true, Bool.or_eq_true, beq_iff_eq] at hends
                rcases hends.1 with rfl | rfl <;> rfl
              have hcut := cut?_append before word (c :: cs)
              have hmore := ih (before ++ word ++ [c]) [] depth none
              rw [prepend_nil (clausesFrom_ne_nil depth none cs)] at hmore
              simp only [List.append_assoc, List.singleton_append, List.nil_append, byteLength_append,
                byteLength_cons, byteLength_nil, Nat.add_zero, hsize, ← Nat.add_assoc] at hmore
              simp only [hcut, hsize, hmore, Option.bind_eq_bind, Option.bind_some]
              simp [prepend]
            · simp only [if_neg hquote, if_neg hopen, if_neg hclose, if_neg hends]
              exact hkeep depth none

theorem clauses?_eq (value : List Char) : clausesFrom? value 0 0 0 none value = some (clauses value) := by
  have h := clausesFrom?_eq [] [] value 0 none
  rwa [prepend_nil (clausesFrom_ne_nil 0 none value)] at h

theorem bindExpression?_eq (h : Hoist) (key : String) (cs : List Char) :
    bindExpression? h key cs = some (h.bindExpression key cs) := by
  rw [bindExpression?, splitAlias?_eq, Hoist.bindExpression]
  obtain ⟨expression, name⟩ := splitAlias cs
  cases name <;> rfl

theorem addKey?_eq (h : Hoist) (cs : List Char) : addKey? h cs = some (h.addKey cs) := by
  rw [addKey?, splitWord?_eq, Hoist.addKey]
  obtain ⟨word, rest⟩ := splitWord cs
  simp only [Option.bind_eq_bind, Option.bind_some]
  cases afterKeyword "as" (trim ((trimStart rest).dropWhile (· == ':'))) with
  | some name => rfl
  | none => exact bindExpression?_eq _ _ _

theorem letClause?_eq (cs : List Char) : letClause? cs = some (Hoist.letClause cs) := by
  rw [letClause?, splitWord?_eq, Hoist.letClause]
  obtain ⟨name, rest⟩ := splitWord cs
  simp only [Option.bind_eq_bind, Option.bind_some]
  cases trimStart rest with
  | nil => rfl
  | cons c text =>
    by_cases hc : c = '='
    · subst hc
      simp only [splitWord?_eq, Option.bind_some]
      rfl
    · simp [hc]

theorem addClause?_eq (h : Hoist) (first : Bool) (clause : List Char) :
    addClause? h first clause = some (h.add first clause) := by
  unfold addClause? Hoist.add
  dsimp only
  split
  · rfl
  · cases afterKeyword "let" (trim clause) with
    | some declared =>
      simp only [letClause?_eq, Option.bind_eq_bind, Option.bind_some]
      split
      · rfl
      · exact addKey?_eq _ _
    | none =>
      dsimp only
      split
      · exact bindExpression?_eq _ _ _
      · exact addKey?_eq _ _

theorem hoist?_eq (directive value : String) (span : Span) :
    hoist? directive value span = some (Hoist.read directive value span) := by
  rw [hoist?, clauses?_eq, Hoist.read]
  simp only [Option.bind_eq_bind, Option.bind_some]
  cases clauses value.toList with
  | nil => rfl
  | cons c cs =>
    simp only [addClause?_eq, Option.bind_some]
    exact List.foldlM_pure

/-! ### Elements -/

theorem addBinding?_eq (s : Sorted) (isTemplate : Bool) (a : Markup.Attribute) (name : String) :
    addBinding? s isTemplate a name = some (s.addBinding isTemplate a name) := by
  rw [addBinding?, formOf?_eq, Sorted.addBinding]
  simp only [Option.bind_eq_bind, Option.bind_some]
  cases Form.ofName name with
  | plain =>
    simp only [interpolated?_eq, Option.bind_some]
    split <;> rfl
  | «variable» target =>
    dsimp only
    split <;> rfl
  | _ => rfl

theorem toOption_bind {ε α β : Type} (x : Except ε α) (f : α → Except ε β) :
    (x >>= f).toOption = x.toOption.bind fun a => (f a).toOption := by
  cases x <;> rfl

theorem add?_eq (inert isTemplate : Bool) (s : Sorted) (a : Markup.Attribute) :
    add? inert isTemplate s a = (Sorted.add inert isTemplate s a).toOption := by
  unfold add? Sorted.add
  split
  · rfl
  · cases dropStart? "*" a.name with
    | some directive =>
      dsimp only
      split
      · rfl
      · rw [hoist?_eq]
        rfl
    | none =>
      dsimp only
      split
      · rfl
      · rw [toOption_bind, plainName?_eq]
        simp only [addBinding?_eq]
        rfl

theorem foldlM_add?_eq (inert isTemplate : Bool) (s : Sorted) (as : List Markup.Attribute) :
    as.foldlM (add? inert isTemplate) s = (as.foldlM (Sorted.add inert isTemplate) s).toOption := by
  induction as generalizing s with
  | nil => rfl
  | cons a as ih =>
    rw [List.foldlM_cons, List.foldlM_cons, toOption_bind, add?_eq]
    simp only [ih]
    rfl

theorem textNode?_eq (inert : Bool) (value : String) (span : Span) :
    textNode? inert value span = some (textNode inert value span) := by
  unfold textNode? textNode
  split
  · rfl
  · simp only [interpolated?_eq, Option.bind_eq_bind, Option.bind_some]
    split <;> rfl

mutual

theorem visit?_eq (inert : Bool) : ∀ n, visit? inert n = (visit inert n).toOption
  | .element head children span endSpan => by
    rw [visit?, localName?_eq, visit]
    simp only [Option.bind_eq_bind, Option.bind_some]
    split
    · rfl
    · split
      · rfl
      · rw [foldlM_add?_eq, visitAll?_eq, toOption_bind]
        simp only [toOption_bind]
        rfl
  | .text value span => by
    rw [visit?, textNode?_eq, visit]
    rfl
  | .comment _ _ => by
    rw [visit?, visit]
    rfl
  | .expansion (.mk switch kind cases span) => by
    rw [visit?, visit]
    rfl

theorem visitAll?_eq (inert : Bool) : ∀ ns, visitAll? inert ns = (visitAll inert ns).toOption
  | [] => by
    rw [visitAll?, visitAll]
    rfl
  | n :: ns => by
    rw [visitAll?, visitAll, toOption_bind, visit?_eq inert n]
    simp only [toOption_bind, visitAll?_eq inert ns]
    rfl

end

/-- Reading a template with checked cuts fails only where reading it without them does. -/
theorem read?_eq (source : String) : read? source = (Template.read source).toOption := by
  rw [read?, Markup.Bytewise.document?_eq, Template.read, toOption_bind]
  simp only [Option.bind_eq_bind, Option.bind_some, visitAll?_eq]
  rfl

end ComponentAtlas.Template.Bytewise
