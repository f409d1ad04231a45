import Mathlib.Data.List.TakeWhile
import PocketCalculator.CommandLine.Terminal
import PocketCalculator.Proofs.Platforms

/-!
# The terminal is conventional

## Reading a directive

A directive is read as the rule with its path and its threshold.
-/

namespace PocketCalculator

theorem Text.toNat_bounds_of_isAlphanum {c : Char} (h : c.isAlphanum = true) :
    48 ≤ c.toNat ∧ c.toNat ≤ 122 := by
  rcases Bool.or_eq_true_iff.mp h with hletter | hdigit
  · rcases Bool.or_eq_true_iff.mp hletter with hupper | hlower
    · have hrange : 65 ≤ c.toNat ∧ c.toNat ≤ 90 := of_decide_eq_true hupper
      omega
    · rcases Bool.and_eq_true_iff.mp hlower with ⟨hfrom, hto⟩
      have hrange : 97 ≤ c.toNat ∧ c.toNat ≤ 122 :=
        ⟨of_decide_eq_true hfrom, of_decide_eq_true hto⟩
      omega
  · have hrange : 48 ≤ c.toNat ∧ c.toNat ≤ 57 := Char.isDigit_iff_toNat.mp hdigit
    omega

theorem Text.isBlank_eq_false_of_isAlphanumeric {c : Char}
    (h : Text.isAlphanumeric c = true) : Text.isBlank c = false := by
  rw [Bool.eq_false_iff]
  intro hblank
  rcases (CharRanges.contains_eq_true_iff _ c).mp hblank with ⟨blank, hmem, hlow, hhigh⟩
  rcases Bool.or_eq_true_iff.mp h with hascii | hletter
  · have hrange := Text.toNat_bounds_of_isAlphanum hascii
    have hapart : forall r, r ∈ blankRanges -> r.2 < 48 ∨ 122 < r.1 := by
      decide
    have hone := hapart blank hmem
    omega
  · rcases (CharRanges.contains_eq_true_iff _ c).mp hletter with ⟨range, hrange, hfrom, hto⟩
    have hapart : (alphanumericRanges.all fun r =>
        blankRanges.all fun b => r.2 < b.1 || b.2 < r.1) = true := by
      decide +kernel
    have hone := List.all_eq_true.mp (List.all_eq_true.mp hapart range hrange) blank hmem
    simp only [Bool.or_eq_true, decide_eq_true_eq] at hone
    omega

namespace CommandLine

theorem isBlank_of_isPathCharacter {c : Char} (h : isPathCharacter c = true) :
    Text.isBlank c = false := by
  simp only [isPathCharacter, Bool.or_eq_true, decide_eq_true_eq] at h
  rcases h with ((hletter | rfl) | rfl) | rfl
  · exact Text.isBlank_eq_false_of_isAlphanumeric hletter
  · decide
  · decide
  · decide

theorem opens_of_isPathCharacter {c : Char} (h : isPathCharacter c = true) :
    Rule.opens c = true := by
  simp only [isPathCharacter, Bool.or_eq_true, decide_eq_true_eq] at h
  simp only [Rule.opens, Bool.or_eq_true, decide_eq_true_eq]
  tauto

theorem isPathCharacter_mark {d : Char} (hd : d ∈ [',', '=', '[']) :
    isPathCharacter d = false := by
  have hall : ([',', '=', '['].all fun d => !isPathCharacter d) = true := by
    decide +kernel
  exact (Bool.not_eq_true' _).mp (List.all_eq_true.mp hall d hd)

theorem ne_mark_of_isPathCharacter {c d : Char} (h : isPathCharacter c = true)
    (hd : d ∈ [',', '=', '[']) : c ≠ d := by
  intro hsame
  rw [hsame, isPathCharacter_mark hd] at h
  cases h

def Directive.rule (d : Directive) : Rule :=
  .forSource d.path d.threshold

theorem ofText?_thresholdName (threshold : Threshold) :
    Rule.ofText? (thresholdName threshold) = some (.forSource [] threshold) := by
  cases threshold with
  | none => decide +kernel
  | some level => cases level <;> decide +kernel

theorem threshold?_thresholdName (threshold : Threshold) :
    threshold? (thresholdName threshold) = some threshold := by
  cases threshold with
  | none => decide
  | some level => cases level <;> decide

theorem thresholdName_isPathCharacter (threshold : Threshold) :
    (thresholdName threshold).all isPathCharacter = true := by
  cases threshold with
  | none => decide
  | some level => cases level <;> decide

theorem thresholdName_ne_nil (threshold : Threshold) : thresholdName threshold ≠ [] := by
  cases threshold with
  | none => decide
  | some level => cases level <;> decide

theorem trim_eq_self {t : Text} (h : forall c, c ∈ t -> Text.isBlank c = false) :
    Text.trim t = t := by
  have hkept : forall u : Text, (forall c, c ∈ u -> Text.isBlank c = false) ->
      u.dropWhile Text.isBlank = u := by
    intro u hu
    apply List.dropWhile_eq_self_iff.mpr
    intro hlength hblank
    rw [hu _ (List.getElem_mem hlength)] at hblank
    cases hblank
  have hreverse := hkept t.reverse fun c hc => h c (List.mem_reverse.mp hc)
  rw [Text.trim, hkept t h, hreverse, List.reverse_reverse]

section

variable {path : Text} (h : IsPath path) (threshold : Threshold)

include h

theorem mem_sourceRule {c : Char} (hc : c ∈ path ++ '=' :: thresholdName threshold) :
    Text.isBlank c = false ∧ c ≠ ',' := by
  have hplain : isPathCharacter c = true -> Text.isBlank c = false ∧ c ≠ ',' := fun hpath =>
    ⟨isBlank_of_isPathCharacter hpath, ne_mark_of_isPathCharacter hpath (by decide)⟩
  rcases List.mem_append.mp hc with hc | hc
  · exact hplain (List.all_eq_true.mp h.characters c hc)
  · cases hc with
    | head => decide
    | tail _ hc =>
        exact hplain (List.all_eq_true.mp (thresholdName_isPathCharacter threshold) c hc)

theorem ofSource?_sourceRule :
    Rule.ofSource? (path ++ '=' :: thresholdName threshold)
        (path ++ '=' :: thresholdName threshold) =
      some (.forSource path threshold) := by
  have hpath : (path ++ '=' :: thresholdName threshold).takeWhile
      (fun c => c != '=' && c != '[') = path := by
    rw [List.takeWhile_append_of_pos]
    · simp
    · intro c hc
      have hpath := List.all_eq_true.mp h.characters c hc
      simp [ne_mark_of_isPathCharacter hpath]
  have hlevel : (path ++ '=' :: thresholdName threshold).drop (path.length + 1) =
      thresholdName threshold := by
    rw [List.drop_append]
    simp
  have hlast : Rule.lastThreshold? (path ++ '=' :: thresholdName threshold) path.length
      ('=' :: thresholdName threshold) = some threshold := by
    simp only [Rule.lastThreshold?, hlevel, if_neg (thresholdName_ne_nil threshold),
      threshold?_thresholdName]
  unfold Rule.ofSource?
  simp only [hpath, List.drop_left, List.take_left]
  change (Rule.lastThreshold? _ path.length ('=' :: _)).map (Rule.forSource path) = _
  rw [hlast]
  rfl

theorem ofText?_sourceRule :
    Rule.ofText? (path ++ '=' :: thresholdName threshold) =
      some (.forSource path threshold) := by
  have htrim := trim_eq_self fun c hc => (mem_sourceRule h threshold hc).1
  have hrule := ofSource?_sourceRule h threshold
  have hcharacters := h.characters
  cases path with
  | nil => exact absurd rfl h.ne_nil
  | cons c path =>
      have hc := List.all_eq_true.mp hcharacters c (List.mem_cons_self ..)
      unfold Rule.ofText?
      rw [htrim]
      simp only [List.cons_append] at hrule ⊢
      rw [if_neg (ne_mark_of_isPathCharacter hc (by decide)),
        if_pos (opens_of_isPathCharacter hc)]
      exact hrule

end

namespace Directive

variable {d : Directive} (h : d.path = [] ∨ IsPath d.path)

include h

theorem ofText?_text : Rule.ofText? d.text = some d.rule := by
  rcases h with hnil | hpath
  · rw [text, if_pos hnil, rule, hnil]
    exact ofText?_thresholdName d.threshold
  · rw [text, if_neg hpath.ne_nil]
    exact ofText?_sourceRule hpath d.threshold

omit h in
theorem text_ne_nil (d : Directive) : d.text ≠ [] := by
  unfold text
  split
  · exact thresholdName_ne_nil d.threshold
  · exact List.append_ne_nil_of_right_ne_nil _ (List.cons_ne_nil _ _)

theorem comma_not_mem_text : ',' ∉ d.text := by
  intro hcomma
  rcases h with hnil | hpath
  · rw [text, if_pos hnil] at hcomma
    have hname := thresholdName_isPathCharacter d.threshold
    exact ne_mark_of_isPathCharacter (List.all_eq_true.mp hname ',' hcomma) (by decide) rfl
  · rw [text, if_neg hpath.ne_nil] at hcomma
    exact (mem_sourceRule hpath d.threshold hcomma).2 rfl

end Directive

/-!
## Reading a filter
-/

namespace Filter

theorem mapM_text {directives : List Directive}
    (h : forall d, d ∈ directives -> d.path = [] ∨ IsPath d.path) :
    (directives.map Directive.text).mapM Rule.ofText? = some (directives.map Directive.rule) := by
  induction directives with
  | nil => rfl
  | cons d directives ih =>
      have hd := Directive.ofText?_text (h d (List.mem_cons_self ..))
      have hrest := ih fun other hother => h other (List.mem_cons_of_mem d hother)
      rw [List.map_cons, List.mapM_cons, hd, hrest]
      rfl

theorem parts_filterText {directives : List Directive}
    (h : Directive.AreWritable directives) :
    parts (Directive.filterText directives) = directives.map Directive.text := by
  have hcommas : forall t, t ∈ directives.map Directive.text -> ',' ∉ t := by
    intro t ht
    rcases List.mem_map.mp ht with ⟨d, hd, rfl⟩
    exact Directive.comma_not_mem_text (h.paths d hd)
  have hne : directives.map Directive.text ≠ [] := by
    simpa using h.ne_nil
  rw [parts, Directive.filterText, Text.join, List.splitOn_intercalate ',' hcommas hne]
  apply List.filter_eq_self.mpr
  intro t ht
  rcases List.mem_map.mp ht with ⟨d, hd, rfl⟩
  simpa using d.text_ne_nil

theorem ofText?_filterText {directives : List Directive}
    (h : Directive.AreWritable directives) :
    ofText? (Directive.filterText directives) = some (directives.map Directive.rule) := by
  have hrules : (directives.map Directive.rule).isEmpty = false := by
    simpa using h.ne_nil
  rw [ofText?, parts_filterText h, mapM_text h.paths, Option.map_some, ofRules, hrules]
  rfl

theorem filterMap_of_mapM {α β : Type} {f : α -> Option β} {xs : List α} {ys : List β}
    (h : xs.mapM f = some ys) : xs.filterMap f = ys := by
  induction xs generalizing ys with
  | nil =>
      cases h
      rfl
  | cons x xs ih =>
      rw [List.mapM_cons] at h
      cases hx : f x with
      | none =>
          rw [hx] at h
          cases h
      | some y =>
          cases hxs : xs.mapM f with
          | none =>
              rw [hx, hxs] at h
              cases h
          | some zs =>
              rw [hx, hxs] at h
              cases h
              rw [List.filterMap_cons_some hx, ih hxs]

theorem ofText_of_ofText? {t : Text} {f : Filter} (h : ofText? t = some f) :
    ofText t = f := by
  rcases Option.map_eq_some_iff.mp h with ⟨rules, hread, rfl⟩
  rw [ofText, filterMap_of_mapM hread]

/-!
## The rule that decides
-/

theorem source_length_le {r s : Rule} (h : r.isAtLeastAsSpecificAs s = true) :
    s.source.length ≤ r.source.length := by
  unfold Rule.isAtLeastAsSpecificAs at h
  split at h
  · exact Nat.le_of_lt (of_decide_eq_true h)
  · rename_i hsame
    exact Nat.le_of_eq (not_not.mp hsame).symm

theorem source_length_le_of_not {r s : Rule} (h : r.isAtLeastAsSpecificAs s ≠ true) :
    r.source.length ≤ s.source.length := by
  unfold Rule.isAtLeastAsSpecificAs at h
  split at h
  · exact Nat.le_of_not_lt fun hlonger => h (decide_eq_true hlonger)
  · rename_i hsame
    exact Nat.le_of_eq (not_not.mp hsame)

structure IsLongest (rules : List Rule) (r : Rule) : Prop where
  mem : r ∈ rules
  longest : forall other, other ∈ rules -> other.source.length ≤ r.source.length

theorem isLongest_singleton (r : Rule) : IsLongest [r] r := by
  refine ⟨List.mem_singleton_self r, ?_⟩
  intro other hother
  rw [List.mem_singleton.mp hother]

theorem IsLongest.concat {rules : List Rule} {best : Rule} (h : IsLongest rules best)
    (r : Rule) :
    IsLongest (rules ++ [r]) (if r.isAtLeastAsSpecificAs best then r else best) := by
  split
  · rename_i hspecific
    refine ⟨List.mem_append_right rules (List.mem_singleton_self r), ?_⟩
    intro other hother
    rcases List.mem_append.mp hother with hother | hother
    · exact Nat.le_trans (h.longest other hother) (source_length_le hspecific)
    · rw [List.mem_singleton.mp hother]
  · rename_i hspecific
    refine ⟨List.mem_append_left [r] h.mem, ?_⟩
    intro other hother
    rcases List.mem_append.mp hother with hother | hother
    · exact h.longest other hother
    · rw [List.mem_singleton.mp hother]
      exact source_length_le_of_not hspecific

theorem better_some (best r : Rule) :
    better (some best) r = some (if r.isAtLeastAsSpecificAs best then r else best) := by
  change (if r.isAtLeastAsSpecificAs best then some r else some best) = _
  rw [apply_ite some]

theorem foldl_better {seen : List Rule} {best : Rule} (h : IsLongest seen best)
    (rules : List Rule) :
    exists r, rules.foldl better (some best) = some r ∧ IsLongest (seen ++ rules) r := by
  induction rules generalizing seen best with
  | nil => exact ⟨best, rfl, (List.append_nil seen).symm ▸ h⟩
  | cons next rules ih =>
      rcases ih (h.concat next) with ⟨r, hr, hlongest⟩
      rw [List.append_assoc, List.singleton_append] at hlongest
      exact ⟨r, by rw [List.foldl_cons, better_some, hr], hlongest⟩

theorem exists_rule? {f : Filter} {e : Event}
    (h : (f.filter fun r => r.appliesTo e) ≠ []) :
    exists r, f.rule? e = some r ∧ IsLongest (f.filter fun r => r.appliesTo e) r := by
  rcases List.exists_cons_of_ne_nil h with ⟨first, rest, hrules⟩
  rw [rule?, hrules]
  exact foldl_better (isLongest_singleton first) rest

variable {directives : List Directive} {e : Event}

theorem appliesTo_rule (d : Directive) (e : Event) :
    d.rule.appliesTo e = d.path.isPrefixOf e.source := by
  simp [Rule.appliesTo, Directive.rule, Rule.forSource]

theorem mem_applying {r : Rule} :
    r ∈ (directives.map Directive.rule).filter (fun r => r.appliesTo e) <->
      exists d, d ∈ directives ∧ d.path <+: e.source ∧ d.rule = r := by
  rw [List.mem_filter, List.mem_map]
  constructor
  · intro h
    rcases h with ⟨⟨d, hd, rfl⟩, happlies⟩
    rw [appliesTo_rule] at happlies
    exact ⟨d, hd, List.isPrefixOf_iff_prefix.mp happlies, rfl⟩
  · intro h
    rcases h with ⟨d, hd, hbegins, rfl⟩
    rw [appliesTo_rule]
    exact ⟨⟨d, hd, rfl⟩, List.isPrefixOf_iff_prefix.mpr hbegins⟩

theorem IsLongest.exists_decides {r : Rule}
    (h : IsLongest ((directives.map Directive.rule).filter fun r => r.appliesTo e) r) :
    exists d, d.rule = r ∧ Directive.Decides directives d e.source := by
  rcases mem_applying.mp h.mem with ⟨d, hd, hbegins, rfl⟩
  refine ⟨d, rfl, hd, hbegins, ?_⟩
  intro other hother happlies
  exact h.longest other.rule (mem_applying.mpr ⟨other, hother, happlies, rfl⟩)

theorem decides_unique (h : Directive.AreWritable directives) {d d' : Directive}
    {source : Text} (hd : Directive.Decides directives d source)
    (hd' : Directive.Decides directives d' source) : d = d' := by
  have hlength : d.path.length = d'.path.length :=
    Nat.le_antisymm (hd'.longest d hd.mem hd.applies) (hd.longest d' hd'.mem hd'.applies)
  have hbegins := List.prefix_of_prefix_length_le hd.applies hd'.applies
    (Nat.le_of_eq hlength)
  exact List.inj_on_of_nodup_map h.distinct hd.mem hd'.mem (hbegins.eq_of_length hlength)

theorem allows_rule (d : Directive) (level : Level) :
    d.rule.allows level = decide (level.rank ≤ finestRank d.threshold) := by
  rcases d with ⟨path, threshold⟩
  cases threshold with
  | none => cases level <;> rfl
  | some finest => rfl

theorem shows_iff (h : Directive.AreWritable directives) :
    shows (directives.map Directive.rule) e = true <->
      exists d, Directive.Decides directives d e.source ∧
        e.level.rank ≤ finestRank d.threshold := by
  by_cases hnone : ((directives.map Directive.rule).filter fun r => r.appliesTo e) = []
  · have hhidden : shows (directives.map Directive.rule) e = false := by
      rw [shows, rule?, hnone]
      rfl
    rw [hhidden]
    constructor
    · intro hshown
      cases hshown
    · intro hshown
      rcases hshown with ⟨d, hdecides, _⟩
      have hmem := mem_applying.mpr ⟨d, hdecides.mem, hdecides.applies, rfl⟩
      rw [hnone] at hmem
      cases hmem
  · rcases exists_rule? hnone with ⟨r, hrule, hlongest⟩
    rcases hlongest.exists_decides with ⟨d, rfl, hdecides⟩
    rw [shows, hrule, Option.any_some, allows_rule, decide_eq_true_iff]
    constructor
    · exact fun hlevel => ⟨d, hdecides, hlevel⟩
    · intro hshown
      rcases hshown with ⟨d', hdecides', hlevel⟩
      rw [decides_unique h hdecides hdecides']
      exact hlevel

end Filter

/-!
## Reading the arguments
-/

namespace Reader

theorem takePlain_awaited {x : Text} (h : x.head? ≠ some '-' ∨ x = ['-']) (isVerbose : Bool) :
    step ⟨⟨none, isVerbose⟩, .value, false⟩ x =
      .ok ⟨⟨none, isVerbose⟩, .settling x, false⟩ := by
  cases x with
  | nil => rfl
  | cons c x =>
      rcases h with hc | hx
      · have hdash : c ≠ '-' := fun hsame => hc (congrArg some hsame)
        simp [step, hdash, takePlain]
      · rw [hx]
        rfl

/-- However the expression is given, it is known once its value is settled. -/
theorem foldlM_of_asks {x : Text} {arguments : List Text} (h : Asks x arguments)
    (isVerbose : Bool) :
    exists r : Reader, arguments.foldlM step ⟨⟨none, isVerbose⟩, .nothing, false⟩ = .ok r ∧
      r.isTrailing = false ∧ r.settle = .ok ⟨⟨some x, isVerbose⟩, .nothing, false⟩ := by
  cases h with
  | attached => exact ⟨⟨⟨some x, isVerbose⟩, .nothing, false⟩, rfl, rfl, rfl⟩
  | separate hx =>
      refine ⟨⟨⟨none, isVerbose⟩, .settling x, false⟩, ?_, rfl, rfl⟩
      have hoption : step ⟨⟨none, isVerbose⟩, .nothing, false⟩ "--eval".toList =
          .ok ⟨⟨none, isVerbose⟩, .value, false⟩ := rfl
      have hvalue := takePlain_awaited hx isVerbose
      rw [List.foldlM_cons, hoption]
      change step ⟨⟨none, isVerbose⟩, .value, false⟩ x >>= pure = _
      rw [hvalue]
      rfl

theorem step_verboseFlag {flag : Text} (h : IsVerboseFlag flag) {r : Reader}
    (hopen : r.isTrailing = false) : r.step flag = r.takeKnown .verbose := by
  rcases h with rfl | rfl
  · have hletters : r.takeShort ['v'] = r.takeKnown .verbose := by
      change r.takeKnown .verbose >>= pure = _
      exact bind_pure _
    rw [← hletters]
    simp [step, hopen]
  · have hlong : r.takeLong "verbeux".toList = r.takeKnown .verbose := rfl
    rw [← hlong]
    simp [step, hopen]

end Reader

theorem ofArguments_of_calls {x : Text} {isVerbose : Bool} {arguments : List Text}
    (h : Calls x isVerbose arguments) :
    Options.ofArguments arguments = .ok ⟨some x, isVerbose⟩ := by
  cases h with
  | quiet hasks =>
      rcases Reader.foldlM_of_asks hasks false with ⟨r, hread, _, hsettled⟩
      rw [Options.ofArguments, Reader.start, hread]
      change r.settle >>= _ = _
      rw [hsettled]
      rfl
  | @before flag arguments hflag hasks =>
      rcases Reader.foldlM_of_asks hasks true with ⟨r, hread, _, hsettled⟩
      have hfirst : Reader.start.step flag = .ok ⟨⟨none, true⟩, .nothing, false⟩ :=
        Reader.step_verboseFlag hflag rfl
      rw [Options.ofArguments, List.foldlM_cons, hfirst]
      change arguments.foldlM Reader.step ⟨⟨none, true⟩, .nothing, false⟩ >>= _ = _
      rw [hread]
      change r.settle >>= _ = _
      rw [hsettled]
      rfl
  | @after flag arguments hflag hasks =>
      rcases Reader.foldlM_of_asks hasks false with ⟨r, hread, hopen, hsettled⟩
      have hlast : r.step flag = .ok ⟨⟨some x, true⟩, .nothing, false⟩ := by
        rw [Reader.step_verboseFlag hflag hopen]
        change r.settle >>= _ = _
        rw [hsettled]
        rfl
      rw [Options.ofArguments, List.foldlM_append, Reader.start, hread]
      change (r.step flag >>= pure) >>= _ = _
      rw [hlast]
      rfl

/-!
## The terminal
-/

theorem Platform.terminal_isConventional : Platform.terminal.IsConventional where
  options_of_calls h := by
    change (Options.ofArguments _).mapError Stop.run = _
    rw [ofArguments_of_calls h]
    rfl
  filter?_filterText {directives} h := by
    refine ⟨Filter.shows (directives.map Directive.rule), ?_, fun e => Filter.shows_iff h⟩
    change (Filter.ofText? _).map Filter.shows = _
    rw [Filter.ofText?_filterText h]
    rfl
  filter_of_filter? h := by
    rcases Option.map_eq_some_iff.mp h with ⟨f, hread, rfl⟩
    change (Filter.ofText _).shows = f.shows
    rw [Filter.ofText_of_ofText? hread]

end CommandLine

end PocketCalculator
