import ComponentAtlas.Proofs.Template.Clauses

/-!
# What `*` attributes mean

The value of a `*` attribute is read by a chain of cuts. Here the result is described clause by clause,
and reading the text of the clauses is shown to give it.

* `KeyClause.bindings`, `Clause.locals`, `Means`: the attributes and variables that clauses stand for;
* `bindAll`, `addKey_text`, `add_text`: one clause adds what it stands for;
* `foldl_putBinding`: of several expressions for an attribute the last one counts;
* `read_means`: the value means what its clauses say, unless the word `as` is an expression with a name.
-/

namespace ComponentAtlas.Template.Microsyntax

open ComponentAtlas.Text ComponentAtlas.Source

/-! ### What clauses stand for -/

/-- An identifier with its first letter in upper case. -/
def capitalized (key : String) : String :=
  match key.toList with
  | [] => ""
  | c :: cs => String.ofList (c.toUpper :: cs)

/-- The attribute that a clause binds, with its expression. -/
def KeyClause.bindings (directive : String) : KeyClause → List (String × String)
  | .bind key _ value _ => [(directive ++ capitalized key, value)]
  | .capture _ _ => []

/-- The variable that a clause introduces, with its value. -/
def KeyClause.locals (directive : String) : KeyClause → List (String × String)
  | .bind key _ _ name => name.toList.map (·, directive ++ capitalized key)
  | .capture key name => [(name, key)]

/-- The attributes that a clause binds, that of the directive apart. -/
def Clause.bindings (directive : String) : Clause → List (String × String)
  | .declareKey _ clause | .key clause => clause.bindings directive
  | _ => []

/-- The variables that a clause introduces. -/
def Clause.locals (directive : String) : Clause → List (String × String)
  | .expression _ name => name.toList.map (·, directive)
  | .declare name source => [(name, source.getD "$implicit")]
  | .declareKey name clause => (name, "$implicit") :: clause.locals directive
  | .key clause => clause.locals directive

/-- The attribute of the directive itself. -/
def headAttr (directive : String) (span : Span) : List Clause → HoistedAttr
  | .expression value _ :: _ => .bound ⟨directive, .property, value, span⟩
  | _ => .text ⟨directive, "", span, none, false⟩

/-- The expression of the last binding of an attribute. -/
def lastValue (bindings : List (String × String)) (name : String) : String :=
  (bindings.reverse.lookup name).getD ""

/-- One attribute for each name, in the order of the first bindings, with the last expression. -/
def boundAttrs (span : Span) (bindings : List (String × String)) : List HoistedAttr :=
  (bindings.map (·.1)).eraseDups.map fun name => .bound ⟨name, .property, lastValue bindings name, span⟩

/-- Attributes and variables are those that the clauses stand for. -/
structure Means (directive : String) (span : Span) (clauses : List Clause) (h : Hoist) : Prop where
  distinct : (h.attrs.map HoistedAttr.name).Nodup
  attrs : h.attrs =
    headAttr directive span clauses :: boundAttrs span (clauses.flatMap (·.bindings directive))
  locals : h.locals = (clauses.flatMap (·.locals directive)).map fun v => ⟨v.1, v.2, span⟩

/-- The clause does not give a name to the value of the expression `as`. -/
def KeyClause.Clear : KeyClause → Prop
  | .bind _ _ value (some _) => value ≠ "as"
  | _ => True

/-- No expression `as` behind a key has a name. -/
def Clause.Clear : Clause → Prop
  | .declareKey _ clause | .key clause => clause.Clear
  | _ => True

/-! ### Names of attributes -/

variable {key x directive n : String} {span : Span} {h : Hoist} {k : KeyClause} {c : Clause}
  {bs bs' vs vs' : List (String × String)}

theorem upperChars_spec : ∀ n < 0x80, isIdentifierChar (Char.ofNat n) = false ∨
    isIdentifierChar (Char.ofNat n).toUpper ∧
      LetterCase.upperChar (Char.ofNat n) = [(Char.ofNat n).toUpper] := by
  decide +kernel

theorem toUpper_spec {c : Char} (hc : isIdentifierChar c) :
    isIdentifierChar c.toUpper ∧ LetterCase.upperChar c = [c.toUpper] := by
  have hspec := upperChars_spec c.toNat (isAscii_of_isIdentifierChar hc)
  rw [Char.ofNat_toNat, hc] at hspec
  exact hspec.resolve_left Bool.noConfusion

theorem capitalize_eq (hkey : IsIdentifier key) :
    String.ofList (capitalize key.toList) = capitalized key := by
  unfold capitalized
  cases hchars : key.toList with
  | nil => exact absurd hchars hkey.toList_ne_nil
  | cons c cs =>
    have hc : isIdentifierChar c := hkey.chars c (by simp [hchars])
    rw [capitalize, (toUpper_spec hc).2]
    rfl

theorem isIdentifier_capitalized (hkey : IsIdentifier key) : IsIdentifier (capitalized key) := by
  have hall := hkey.chars
  unfold capitalized
  cases hchars : key.toList with
  | nil => exact absurd hchars hkey.toList_ne_nil
  | cons c cs =>
    rw [hchars, List.forall_mem_cons] at hall
    refine ⟨by simp, ?_⟩
    rw [String.toList_ofList]
    exact List.forall_mem_cons.2 ⟨(toUpper_spec hall.1).1, hall.2⟩

/-- The name does not ask for an attribute, a class or a style. -/
def IsPlainName (name : String) : Prop :=
  ∀ mark ∈ ["attr.", "class.", "style."], ¬ mark.toList <+: name.toList

theorem inputName_of_isPlainName (hname : IsPlainName n) : inputName n = (.property, n) := by
  have hnone : ∀ mark ∈ ["attr.", "class.", "style."], dropStart? mark n = none := by
    intro mark hmark
    cases hdrop : dropStart? mark n with
    | none => rfl
    | some rest =>
      refine absurd ?_ (hname mark hmark)
      rw [dropStart?_eq_some_iff.1 hdrop, String.toList_append]
      exact List.prefix_append _ _
  rw [inputName, hnone "attr." (by simp), hnone "class." (by simp), hnone "style." (by simp)]

theorem isPlainName_append (hname : IsPlainName n) (hx : IsIdentifier x) : IsPlainName (n ++ x) := by
  rintro mark hmark ⟨rest, hrest⟩
  rw [String.toList_append] at hrest
  rcases List.append_eq_append_iff.1 hrest with ⟨ds, hn, -⟩ | ⟨ds, hmark', hx'⟩
  · exact hname mark hmark ⟨ds, hn.symm⟩
  · -- the dot at the end of the mark would have to stand in the identifier
    rcases List.eq_nil_or_concat ds with rfl | ⟨ds, d, rfl⟩
    · exact hname mark hmark ⟨[], by rw [hmark', List.append_nil, List.append_nil]⟩
    · have hdot : ∀ m ∈ ["attr.", "class.", "style."], m.toList.getLast? = some '.' := by decide
      have hlast := hdot mark hmark
      rw [hmark', List.concat_eq_append, ← List.append_assoc, List.getLast?_concat] at hlast
      have hmem : '.' ∈ x.toList := by
        rw [hx', ← Option.some.inj hlast]
        simp
      exact absurd (hx.chars '.' hmem) (by decide)

/-! ### Clauses that begin with a key -/

/-- The list with one more binding: in place of an attribute of the same name, or behind all others. -/
def putBinding (span : Span) (attrs : List HoistedAttr) (binding : String × String) : List HoistedAttr :=
  Hoist.putAttr binding.1 (.bound (.oneWay binding.1 binding.2 span)) attrs

/-- Some attributes bound and some variables introduced. -/
def bindAll (h : Hoist) (bindings locals : List (String × String)) : Hoist :=
  { h with
    attrs := bindings.foldl (putBinding h.span) h.attrs
    locals := h.locals ++ locals.map fun v => ⟨v.1, v.2, h.span⟩ }

@[simp] theorem bindAll_directive : (bindAll h bs vs).directive = h.directive := rfl

theorem bindAll_bindAll : bindAll (bindAll h bs vs) bs' vs' = bindAll h (bs ++ bs') (vs ++ vs') := by
  simp [bindAll]

theorem bindExpression_text {e : String} {name : Option String} (h : Hoist) (key : String)
    (he : IsExpression e) (hname : ∀ x ∈ name, IsIdentifier x) :
    h.bindExpression key (e ++ aliasText name).toList =
      bindAll h [(key, e)] (name.toList.map (·, key)) := by
  rw [Hoist.bindExpression, splitAlias_text he hname]
  cases name <;> simp [bindAll, putBinding, Hoist.bindAttr, Hoist.bindVariable]

/-- A key with the text behind it. -/
theorem addKey_append {v : List Char} (h : Hoist) (hkey : IsIdentifier key) (colon : Bool)
    (hv : trim v = v) (hmark : ∀ c ∈ v.head?, c ≠ ':') :
    h.addKey (key.toList ++ (if colon then ": " else " ").toList ++ v) =
      match afterKeyword "as" v with
      | some name => h.bindVariable (String.ofList (trim name)) key
      | none => h.bindExpression (h.directive ++ capitalized key) v := by
  have hword : splitWord (key.toList ++ (if colon then ": " else " ").toList ++ v) =
      (key.toList ++ (if colon then [':'] else []), ' ' :: v) := by
    have hcut : key.toList ++ (if colon then ": " else " ").toList ++ v =
        (key.toList ++ (if colon then [':'] else [])) ++ ' ' :: v := by
      cases colon <;> simp
    rw [hcut]
    refine splitWord_append (List.forall_mem_append.2 ⟨hkey.isWordChar, ?_⟩) (by simp; decide)
    exact List.all_eq_true.1 (by cases colon <;> decide)
  have hcolon : ((key.toList ++ (if colon then [':'] else [])).reverse.dropWhile (· == ':')).reverse =
      key.toList := by
    have hkeep : key.toList.reverse.dropWhile (· == ':') = key.toList.reverse := by
      cases hrev : key.toList.reverse with
      | nil => rfl
      | cons c cs =>
        have hc : c ∈ key.toList := List.mem_reverse.1 (by simp [hrev])
        have hne := (isIdentifierChar_spec (hkey.chars c hc)).2.2.2.1
        exact List.dropWhile_cons_of_neg (by simpa using hne)
    cases colon <;> simp [hkeep]
  have hvalue : trim ((trimStart (' ' :: v)).dropWhile (· == ':')) = v := by
    have hstart : trimStart (' ' :: v) = v := trimStart_of_trim hv
    have hkeep : v.dropWhile (· == ':') = v := by
      cases v with
      | nil => rfl
      | cons c v => exact List.dropWhile_cons_of_neg (by simpa using hmark c rfl)
    rw [hstart, hkeep, hv]
  cases hname : afterKeyword "as" v <;>
    simp only [Hoist.addKey, hword, hcolon, hvalue, hname, String.ofList_toList, capitalize_eq hkey]

section Value

variable {value : String} {name : Option String} (hvalue : IsExpression value)
  (hname : ∀ x ∈ name, IsIdentifier x)
include hvalue

theorem value_ne_nil : value.toList ≠ [] := fun h => hvalue.ne_empty (String.toList_eq_nil_iff.1 h)

theorem head?_value : (value ++ aliasText name).toList.head? = value.toList.head? := by
  rw [String.toList_append, List.head?_append_of_ne_nil _ (value_ne_nil hvalue)]

include hname

theorem trim_value : trim (value ++ aliasText name).toList = (value ++ aliasText name).toList := by
  cases name with
  | none => simpa [aliasText] using hvalue.trimmed
  | some x =>
    have hx := hname x rfl
    have hends := trim_append hvalue.trimmed " as ".toList hx.trim_eq (value_ne_nil hvalue)
      hx.toList_ne_nil
    simpa [aliasText] using hends

omit hname in
/-- An expression is not taken for a keyword, unless it is one and a name follows. -/
theorem afterKeyword_value {word : String} (hword : word ∈ ["let", "as"])
    (hne : value = word → name = none) :
    afterKeyword word (value ++ aliasText name).toList = none := by
  rw [String.toList_append]
  refine afterKeyword_append (hvalue.no_keyword word hword) (fun heq => ?_) ?_
  · rw [hne (String.toList_inj.1 heq)]
    rfl
  · have hblank : ∀ w ∈ ["let", "as"], ' ' ∉ w.toList := by decide
    cases name with
    | none => simp [aliasText]
    | some x => simpa [aliasText] using hblank word hword

end Value

theorem addKey_text (hk : k.WellFormed) (hclear : k.Clear) (h : Hoist) :
    h.addKey k.text.toList = bindAll h (k.bindings h.directive) (k.locals h.directive) := by
  cases k with
  | bind key colon value name =>
    obtain ⟨⟨hkey, -⟩, hvalue, hname⟩ := hk
    have hne : value = "as" → name = none := by
      cases name with
      | none => exact fun _ => rfl
      | some x => exact fun heq => absurd heq hclear
    have hmark : ∀ c ∈ (value ++ aliasText name).toList.head?, c ≠ ':' := by
      rw [head?_value hvalue]
      exact fun c hc => (hvalue.no_mark c hc).1
    rw [KeyClause.text, String.toList_append, String.toList_append,
      addKey_append h hkey colon (trim_value hvalue hname) hmark,
      afterKeyword_value hvalue (by simp) hne]
    exact bindExpression_text h _ hvalue hname
  | capture key name =>
    obtain ⟨⟨hkey, -⟩, hname⟩ := hk
    have hcut : (KeyClause.capture key name).text.toList =
        key.toList ++ (if false then ": " else " ").toList ++ ("as".toList ++ ' ' :: name.toList) := by
      simp [KeyClause.text]
    have htrim : trim ("as".toList ++ ' ' :: name.toList) = "as".toList ++ ' ' :: name.toList := by
      have hword : trim "as".toList = "as".toList := by decide
      have hends := trim_append hword [' '] hname.trim_eq (by decide) hname.toList_ne_nil
      simpa using hends
    rw [hcut, addKey_append h hkey false htrim (by simp), afterKeyword_of_blank "as" (by decide)]
    simp only [trimStart_of_trim hname.trim_eq, hname.trim_eq, String.ofList_toList]
    rfl

/-! ### Clauses -/

/-- A clause that begins with a key consists of the key, a mark and the text behind it. -/
theorem keyText_cut (hk : k.WellFormed) : ∃ key mid v, k.text.toList = String.toList key ++ mid ++ v ∧
    (IsIdentifier key ∧ key ≠ "let") ∧ (trim v = v ∧ v ≠ []) ∧
      ∃ c ds, mid = c :: ds ∧ c ∉ "let".toList := by
  cases k with
  | bind key colon value name =>
    obtain ⟨⟨hkey, hlet, -⟩, hvalue, hname⟩ := hk
    refine ⟨key, (if colon then ": " else " ").toList, (value ++ aliasText name).toList, ?_,
      ⟨hkey, hlet⟩, ⟨trim_value hvalue hname, ?_⟩, ?_⟩
    · rw [KeyClause.text, String.toList_append, String.toList_append]
    · rw [String.toList_append]
      exact List.append_ne_nil_of_left_ne_nil (value_ne_nil hvalue) _
    · cases colon
      · exact ⟨' ', [], rfl, by decide⟩
      · exact ⟨':', [' '], rfl, by decide⟩
  | capture key name =>
    obtain ⟨⟨hkey, hlet, -⟩, hname⟩ := hk
    refine ⟨key, " as ".toList, name.toList, ?_, ⟨hkey, hlet⟩, ⟨hname.trim_eq, hname.toList_ne_nil⟩,
      ' ', "as ".toList, rfl, by decide⟩
    rw [KeyClause.text, String.toList_append, String.toList_append]

theorem keyText_spec (hk : k.WellFormed) :
    trim k.text.toList = k.text.toList ∧ (∃ c cs, k.text.toList = c :: cs ∧ c ≠ '=') ∧
      afterKeyword "let" k.text.toList = none := by
  obtain ⟨key, mid, v, htext, ⟨hkey, hlet⟩, ⟨hv, hne⟩, d, ds, rfl, hd⟩ := keyText_cut hk
  rw [htext]
  refine ⟨trim_append hkey.trim_eq _ hv hkey.toList_ne_nil hne, ?_, ?_⟩
  · obtain ⟨c, cs, hcons⟩ := List.exists_cons_of_ne_nil hkey.toList_ne_nil
    refine ⟨c, cs ++ d :: ds ++ v, by simp [hcons], ?_⟩
    exact (isIdentifierChar_spec (hkey.chars c (by simp [hcons]))).2.2.2.2.1
  · rw [List.append_assoc]
    refine afterKeyword_append (no_keyword_of_isIdentifier hkey "let") (fun heq => ?_)
      (by simpa using hd)
    exact absurd (String.toList_inj.1 heq) hlet

/-- The variable of a `let` clause, and the clause behind it. -/
theorem letClause_append (hx : IsIdentifier x) (rest : List Char) (hrest : trim rest = rest)
    (hmark : ∀ c ∈ rest.head?, c ≠ '=') :
    Hoist.letClause (x.toList ++ (if rest.isEmpty then [] else ' ' :: rest)) =
      (x, "$implicit", rest) := by
  have hword : splitWord (x.toList ++ (if rest.isEmpty then [] else ' ' :: rest)) =
      (x.toList, if rest.isEmpty then [] else ' ' :: rest) := by
    refine splitWord_append hx.isWordChar ?_
    split
    · simp
    · simp; decide
  have hstart : trimStart (if rest.isEmpty then [] else ' ' :: rest) = rest := by
    split
    · next hnil => rw [List.isEmpty_iff.1 hnil]; rfl
    · exact trimStart_of_trim hrest
  rw [Hoist.letClause, hword]
  simp only [hstart, String.ofList_toList]
  split
  · next heq => simp at hmark
  · rw [hrest]

theorem letClause_source {y : String} (hx : IsIdentifier x) (hy : IsIdentifier y) :
    Hoist.letClause (x.toList ++ " = ".toList ++ y.toList) = (x, y, []) := by
  have hword : splitWord (x.toList ++ " = ".toList ++ y.toList) =
      (x.toList, ' ' :: '=' :: ' ' :: y.toList) := by
    rw [List.append_assoc]
    exact splitWord_append hx.isWordChar (by simp; decide)
  have hsource : splitWord (trimStart (' ' :: y.toList)) = (y.toList, []) := by
    have hstart : trimStart (' ' :: y.toList) = y.toList := trimStart_of_trim hy.trim_eq
    rw [hstart, ← List.append_nil y.toList, splitWord_append hy.isWordChar (by simp),
      List.append_nil]
  rw [Hoist.letClause, hword]
  change (String.ofList x.toList, String.ofList (splitWord (trimStart (' ' :: y.toList))).1,
    trim (splitWord (trimStart (' ' :: y.toList))).2) = _
  rw [hsource, String.ofList_toList, String.ofList_toList]
  rfl

/-- The binding of the directive's own attribute. -/
def Clause.opening (directive : String) : Clause → List (String × String)
  | .expression value _ => [(directive, value)]
  | _ => []

/-- A `let` clause introduces its variable, and then the clause behind it has its effect. -/
theorem add_let {cs ds rest : List Char} {source : String} (h : Hoist) (first : Bool)
    (hx : IsIdentifier x) (hcs : trim cs = "let ".toList ++ (x.toList ++ ds))
    (hlet : Hoist.letClause (x.toList ++ ds) = (x, source, rest)) :
    h.add first cs =
      if rest.isEmpty then bindAll h [] [(x, source)]
      else (bindAll h [] [(x, source)]).addKey rest := by
  have hstart : trimStart (x.toList ++ ds) = x.toList ++ ds := by
    obtain ⟨c, cs, hcons⟩ := List.exists_cons_of_ne_nil hx.toList_ne_nil
    rw [hcons]
    exact trimStart_cons (hx.isBlank_eq_false c (by simp [hcons]))
  have hkeyword : afterKeyword "let" ("let ".toList ++ (x.toList ++ ds)) = some (x.toList ++ ds) :=
    (afterKeyword_of_blank "let" (c := ' ') (by decide) _).trans (congrArg some hstart)
  rw [Hoist.add, hcs, hkeyword]
  simp only [hlet]
  rfl

theorem trim_text (hc : c.WellFormed) : trim c.text.toList = c.text.toList := by
  have hlet : ∀ (mid : List Char) {v : List Char}, trim v = v → v ≠ [] →
      trim ("let".toList ++ mid ++ v) = "let".toList ++ mid ++ v :=
    fun mid _ hv hne => trim_append (by decide) mid hv (by decide) hne
  cases c with
  | expression value name => exact trim_value hc.1 hc.2
  | declare name source =>
    cases source with
    | none => simpa [Clause.text] using hlet [' '] hc.1.trim_eq hc.1.toList_ne_nil
    | some y =>
      have hy := hc.2 y rfl
      simpa [Clause.text] using hlet (' ' :: name.toList ++ " = ".toList) hy.trim_eq hy.toList_ne_nil
  | declareKey name clause =>
    obtain ⟨htrim, ⟨d, ds, hcons, -⟩, -⟩ := keyText_spec hc.2
    have hne : clause.text.toList ≠ [] := by simp [hcons]
    simpa [Clause.text] using hlet (' ' :: name.toList ++ [' ']) htrim hne
  | key clause => exact (keyText_spec hc).1

/-- A clause adds what it stands for. -/
theorem add_text {first : Bool} {cs : List Char} (hc : c.WellFormed) (hfits : c.Fits first)
    (hclear : c.Clear) (hcs : trim cs = c.text.toList) (h : Hoist) :
    h.add first cs =
      bindAll h (c.opening h.directive ++ c.bindings h.directive) (c.locals h.directive) := by
  cases c with
  | expression value name =>
    obtain ⟨rfl, hne⟩ := hfits
    obtain ⟨hvalue, hname⟩ := hc
    have htext : (value ++ aliasText name).toList ≠ [] := by
      rw [String.toList_append]
      exact List.append_ne_nil_of_left_ne_nil (value_ne_nil hvalue) _
    rw [Hoist.add, hcs, Clause.text, if_neg (by simpa using htext),
      afterKeyword_value hvalue (by simp) fun heq => absurd heq hne]
    exact bindExpression_text h h.directive hvalue hname
  | declare name source =>
    cases source with
    | none =>
      have hread := letClause_append hc.1 [] (by decide) (by simp)
      rw [add_let h first hc.1 (by simp [hcs, Clause.text]) hread]
      rfl
    | some y =>
      have hread := letClause_source hc.1 (hc.2 y rfl)
      rw [List.append_assoc] at hread
      rw [add_let h first hc.1 (by simp [hcs, Clause.text]) hread]
      rfl
  | declareKey name clause =>
    obtain ⟨htrim, ⟨d, ds, hcons, hmark⟩, -⟩ := keyText_spec hc.2
    have hne : clause.text.toList.isEmpty = false := by simp [hcons]
    have hread := letClause_append hc.1 clause.text.toList htrim (by simpa [hcons] using hmark)
    rw [hne] at hread
    rw [add_let h first hc.1 (by simp [hcs, Clause.text]) hread, hne, if_neg Bool.false_ne_true,
      addKey_text hc.2 hclear, bindAll_bindAll]
    rfl
  | key clause =>
    obtain rfl := hfits
    obtain ⟨-, ⟨d, ds, hcons, -⟩, hlet⟩ := keyText_spec hc
    rw [Hoist.add, hcs, Clause.text, if_neg (by simp [hcons]), hlet]
    simp only [Bool.false_eq_true, if_false, addKey_text hc hclear]
    rfl

/-! ### Attributes -/

theorem eraseDups_concat (names : List String) (n : String) :
    (names ++ [n]).eraseDups = if n ∈ names then names.eraseDups else names.eraseDups ++ [n] := by
  rw [List.eraseDups_append]
  split
  · next hn => simp [List.removeAll, hn]
  · next hn => simp [List.removeAll, hn, List.eraseDups_cons]

theorem nodup_eraseDups (names : List String) : names.eraseDups.Nodup := by
  induction names using List.reverseRecOn with
  | nil => exact List.nodup_nil
  | append_singleton names n ih =>
    rw [eraseDups_concat]
    split
    · exact ih
    · next hn =>
      refine List.nodup_append.2 ⟨ih, by simp, fun m hm m' hm' heq => hn ?_⟩
      rw [← List.mem_singleton.1 hm', ← heq]
      exact List.mem_eraseDups.1 hm

theorem lastValue_concat (bs : List (String × String)) (n e m : String) :
    lastValue (bs ++ [(n, e)]) m = if m = n then e else lastValue bs m := by
  rw [lastValue, List.reverse_concat, List.lookup_cons]
  by_cases hm : m = n
  · simp [hm]
  · rw [if_neg hm, beq_eq_false_iff_ne.2 hm]
    rfl

/-- An attribute put in its place among attributes with different names. -/
theorem putAttr_map {names : List String} (hnames : names.Nodup) (value : String → String)
    (n e : String) :
    Hoist.putAttr n (.bound ⟨n, .property, e, span⟩)
        (names.map fun m => .bound ⟨m, .property, value m, span⟩) =
      (if n ∈ names then names else names ++ [n]).map fun m =>
        .bound ⟨m, .property, if m = n then e else value m, span⟩ := by
  induction names with
  | nil => simp [Hoist.putAttr]
  | cons m names ih =>
    obtain ⟨hm, hnames⟩ := List.nodup_cons.1 hnames
    rw [List.map_cons, Hoist.putAttr]
    by_cases hmn : m = n
    · subst hmn
      have hsame : ∀ m' ∈ names, m' ≠ m := fun m' hm' heq => hm (heq ▸ hm')
      simp only [HoistedAttr.name, beq_self_eq_true, if_true, List.mem_cons_self, List.map_cons,
        List.cons.injEq, true_and]
      exact List.map_congr_left fun m' hm' => by rw [if_neg (hsame m' hm')]
    · have hname : (HoistedAttr.bound ⟨m, .property, value m, span⟩).name ≠ n := hmn
      rw [if_neg (by simpa using hname), ih hnames]
      by_cases hmem : n ∈ names <;> simp [hmem, hmn, Ne.symm hmn]

theorem putBinding_boundAttrs (hn : IsPlainName n) (e : String) :
    putBinding span (boundAttrs span bs) (n, e) = boundAttrs span (bs ++ [(n, e)]) := by
  have hattr : Input.oneWay n e span = ⟨n, .property, e, span⟩ := by
    rw [Input.oneWay, inputName_of_isPlainName hn]
  rw [putBinding, hattr, boundAttrs, boundAttrs, putAttr_map (nodup_eraseDups _), List.map_append,
    List.map_singleton, eraseDups_concat]
  simp only [List.mem_eraseDups, lastValue_concat]

/-- Of several expressions for an attribute the last one counts; the attribute stays where the first
one has put it. -/
theorem foldl_putBinding {a : HoistedAttr} (hbs : ∀ b ∈ bs, IsPlainName b.1 ∧ b.1 ≠ a.name) :
    bs.foldl (putBinding span) [a] = a :: boundAttrs span bs := by
  induction bs using List.reverseRecOn with
  | nil => rfl
  | append_singleton bs b ih =>
    obtain ⟨hbs, hb⟩ := List.forall_mem_append.1 hbs
    obtain ⟨hplain, hne⟩ := hb b (List.mem_singleton_self b)
    rw [List.foldl_concat, ih hbs, ← putBinding_boundAttrs hplain, putBinding, Hoist.putAttr,
      if_neg (by simpa using Ne.symm hne)]
    rfl

theorem isPlainName_of_mem_bindings (hdirective : IsPlainName directive) (hc : c.WellFormed)
    {b : String × String} (hb : b ∈ c.bindings directive) : IsPlainName b.1 ∧ b.1 ≠ directive := by
  have hkey : ∀ k : KeyClause, k.WellFormed →
      ∀ b ∈ k.bindings directive, IsPlainName b.1 ∧ b.1 ≠ directive := by
    intro k hk b hb
    cases k with
    | bind key colon value name =>
      obtain rfl := List.mem_singleton.1 hb
      have hcap := isIdentifier_capitalized hk.1.1
      refine ⟨isPlainName_append hdirective hcap, fun heq => hcap.toList_ne_nil ?_⟩
      have hlists := congrArg String.toList heq
      rw [String.toList_append] at hlists
      exact List.append_right_eq_self.1 hlists
    | capture key name => cases hb
  cases c with
  | expression value name => cases hb
  | declare name source => cases hb
  | declareKey name clause => exact hkey clause hc.2 b hb
  | key clause => exact hkey clause hc b hb

/-! ### Values -/

theorem opening_of_fits (hfits : c.Fits false) (directive : String) : c.opening directive = [] := by
  cases c with
  | expression value name => exact absurd hfits.1 Bool.noConfusion
  | _ => rfl

/-- The clauses behind the first one add what they stand for, one after the other. -/
theorem foldl_add {cs : List Clause} (hcs : ∀ k ∈ cs, k.WellFormed ∧ k.Fits false ∧ k.Clear)
    (h : Hoist) :
    (cs.map fun k => ' ' :: k.text.toList).foldl (fun h k => h.add false k) h =
      bindAll h (cs.flatMap (·.bindings h.directive)) (cs.flatMap (·.locals h.directive)) := by
  induction cs generalizing h with
  | nil => simp [bindAll]
  | cons k cs ih =>
    obtain ⟨⟨hk, hfits, hclear⟩, hcs⟩ := List.forall_mem_cons.1 hcs
    have htrim : trim (' ' :: k.text.toList) = k.text.toList := by
      rw [trim_blank (by decide), trim_text hk]
    rw [List.map_cons, List.foldl_cons, add_text hk hfits hclear htrim, opening_of_fits hfits,
      List.nil_append, ih hcs, bindAll_bindAll]
    rfl

theorem read_valueText {cs : List Clause} (hwf : WellFormed (c :: cs))
    (hclear : ∀ k ∈ c :: cs, k.Clear) :
    Hoist.read directive (valueText (c :: cs)) span =
      bindAll ⟨directive, span, [.text ⟨directive, "", span, none, false⟩], []⟩
        (c.opening directive ++ (c :: cs).flatMap (·.bindings directive))
        ((c :: cs).flatMap (·.locals directive)) := by
  obtain ⟨hc, hcs⟩ := List.forall_mem_cons.1 hwf.each
  obtain ⟨hclear, hclears⟩ := List.forall_mem_cons.1 hclear
  have htail : ∀ k ∈ cs, k.WellFormed ∧ k.Fits false ∧ k.Clear := fun k hk =>
    ⟨hcs k hk, hwf.tail k hk, hclears k hk⟩
  rw [Hoist.read, clauses_value c cs hc hcs]
  simp only [add_text hc (hwf.head c rfl) hclear (trim_text hc), foldl_add htail, bindAll_directive,
    bindAll_bindAll, List.flatMap_cons, List.append_assoc]

/-- The expression of the first clause, if there is one, takes the place of the empty attribute. -/
theorem foldl_opening (hdirective : IsPlainName directive) (c : Clause) (cs : List Clause) :
    (c.opening directive).foldl (putBinding span) [.text ⟨directive, "", span, none, false⟩] =
      [headAttr directive span (c :: cs)] := by
  cases c with
  | expression value name =>
    simp [Clause.opening, putBinding, Hoist.putAttr, HoistedAttr.name, headAttr, Input.oneWay,
      inputName_of_isPlainName hdirective]
  | _ => rfl

theorem headAttr_name (directive : String) (span : Span) (clauses : List Clause) :
    (headAttr directive span clauses).name = directive := by
  unfold headAttr
  split <;> rfl

/-- The value of a `*` attribute means what its clauses say. -/
theorem read_means (directive : String) (span : Span) (clauses : List Clause)
    (hdirective : IsPlainName directive) (hwf : WellFormed clauses) (hclear : ∀ c ∈ clauses, c.Clear) :
    Means directive span clauses (Hoist.read directive (valueText clauses) span) := by
  obtain ⟨c, cs, rfl⟩ := List.exists_cons_of_ne_nil hwf.ne_nil
  have hnames : ∀ b ∈ (c :: cs).flatMap (·.bindings directive), IsPlainName b.1 ∧ b.1 ≠ directive := by
    intro b hb
    obtain ⟨k, hk, hb⟩ := List.mem_flatMap.1 hb
    exact isPlainName_of_mem_bindings hdirective (hwf.each k hk) hb
  have hattrs : (Hoist.read directive (valueText (c :: cs)) span).attrs =
      headAttr directive span (c :: cs) ::
        boundAttrs span ((c :: cs).flatMap (·.bindings directive)) := by
    rw [read_valueText hwf hclear, bindAll, List.foldl_append, foldl_opening hdirective c cs]
    exact foldl_putBinding (by simpa only [headAttr_name] using hnames)
  refine ⟨?_, hattrs, ?_⟩
  · have hbound : (boundAttrs span ((c :: cs).flatMap (·.bindings directive))).map HoistedAttr.name =
        (((c :: cs).flatMap (·.bindings directive)).map (·.1)).eraseDups := by
      simp [boundAttrs, Function.comp_def, HoistedAttr.name]
    rw [hattrs, List.map_cons, hbound, headAttr_name]
    refine List.nodup_cons.2 ⟨fun hmem => ?_, nodup_eraseDups _⟩
    obtain ⟨b, hb, heq⟩ := List.mem_map.1 (List.mem_eraseDups.1 hmem)
    exact (hnames b hb).2 heq
  · rw [read_valueText hwf hclear, bindAll, List.nil_append]

/-- Two expressions for one attribute, the second one with separators in a quote and in parentheses. -/
theorem read_means_twice :
    valueText [.declareKey "item" (.bind "of" true "items" none), .key (.capture "index" "i"),
        .key (.bind "of" false "f(';', b)" (some "xs"))] =
        "let item of: items; index as i; of f(';', b) as xs" ∧
      Means "ngFor" {}
        [.declareKey "item" (.bind "of" true "items" none), .key (.capture "index" "i"),
          .key (.bind "of" false "f(';', b)" (some "xs"))]
        (Hoist.read "ngFor" "let item of: items; index as i; of f(';', b) as xs" {}) := by
  have hident : ∀ x ∈ ["item", "of", "index", "i", "xs"], IsIdentifier x := by decide
  have hitems : IsExpression "items" :=
    ⟨by decide, by decide, by decide, fun h => absurd (h.sublist.count_le ' ') (by decide), by simp,
      by simp⟩
  have hcall : IsExpression "f(';', b)" :=
    ⟨by decide, by decide, by decide, fun h => absurd (h.sublist.count_le ' ') (by decide), by simp,
      by simp⟩
  have htext : valueText [.declareKey "item" (.bind "of" true "items" none), .key (.capture "index" "i"),
      .key (.bind "of" false "f(';', b)" (some "xs"))] =
      "let item of: items; index as i; of f(';', b) as xs" := by
    decide +kernel
  have hplain : IsPlainName "ngFor" := by
    unfold IsPlainName
    decide
  refine ⟨htext, htext ▸ read_means "ngFor" {} _ hplain
    ⟨by simp, by simp [Clause.Fits], by simp [Clause.Fits], ?_⟩ ?_⟩
  · simp [Clause.WellFormed, KeyClause.WellFormed, hident, hitems, hcall]
  · simp [Clause.Clear, KeyClause.Clear]

/-- The word `as` as an expression with a name: the clause is read as if it gave the name `as x`, which
is no identifier, to the key, and no attribute is bound. -/
theorem aliasedAs_misread :
    IsPlainName "d" ∧ WellFormed [.declare "y" none, .key (.bind "k" false "as" (some "x"))] ∧
      valueText [.declare "y" none, .key (.bind "k" false "as" (some "x"))] = "let y; k as as x" ∧
      ¬ Means "d" {} [.declare "y" none, .key (.bind "k" false "as" (some "x"))]
        (Hoist.read "d" "let y; k as as x" {}) := by
  have hident : ∀ x ∈ ["y", "k", "x"], IsIdentifier x := by decide
  have has : IsExpression "as" :=
    ⟨by decide, by decide, by decide, fun h => absurd (h.sublist.count_le ' ') (by decide), by simp,
      by simp⟩
  refine ⟨by unfold IsPlainName; decide, ⟨by simp, by simp [Clause.Fits], by simp [Clause.Fits], ?_⟩,
    by decide +kernel, fun h => absurd h.attrs (by decide +kernel)⟩
  simp [Clause.WellFormed, KeyClause.WellFormed, hident, has]

end ComponentAtlas.Template.Microsyntax
