import DartTree.Proofs.Interchange.Sites
import Mathlib.Data.List.TakeWhile

/-! What an import of the interchange tree comes to, for every tree: it fails
with the first thing that is wrong in the order of the text, and otherwise it
keeps every node and reports every syntax error in that order. -/
namespace DartTree

namespace RawNode

theorem builds_failure {limits : Limits} {bounds : Option Span} {first : Nat}
    {above nodes : List RawNode} {built : Built}
    (builds : Builds limits bounds first above nodes built) (shown : above.any isMissing = false) :
    built.failure =
      ((sitesAll above nodes).filter RawSite.checked).findSome?
        (RawSite.offenceFrom limits bounds first) := by
  induction builds with
  | nil above => rfl
  | cons head tail one more =>
    rw [Built.andThen_failure,sitesAll_cons,List.filter_append,List.findSome?_append,one shown,
      more shown]
  | refused node error wrong => rw [checked_sites _ node shown,List.findSome?_cons,wrong]; rfl
  | token node sound missing =>
    rw [checked_token _ node shown missing,List.findSome?_cons,sound]
    rfl
  | region node sound present broken inside below =>
    rw [checked_sites _ node shown,List.findSome?_cons,sound]
    exact below (shown_below _ node shown present)
  | regular node kind sound present parsed named inside below =>
    rw [checked_sites _ node shown,List.findSome?_cons,sound,Built.wrap_failure]
    exact below (shown_below _ node shown present)

def passed (offence : RawSite → Option ImportError) (sites : List RawSite) : List RawSite :=
  sites.takeWhile fun site => (offence site).isNone

theorem passed_eq_self (offence : RawSite → Option ImportError) (sites : List RawSite)
    (sound : sites.findSome? offence = none) : passed offence sites = sites := by
  rw [List.findSome?_eq_none_iff] at sound
  rw [passed,List.takeWhile_eq_self_iff]
  intro site member
  rw [sound site member]
  rfl

private theorem passed_cons (offence : RawSite → Option ImportError) (site : RawSite)
    (rest : List RawSite) (sound : offence site = none) :
    passed offence (site :: rest) = site :: passed offence rest :=
  List.takeWhile_cons_of_pos (by rw [sound]; rfl)

theorem passed_append (offence : RawSite → Option ImportError) (left right : List RawSite) :
    passed offence (left ++ right) =
      match left.findSome? offence with
      | some _ => passed offence left
      | none => left ++ passed offence right := by
  induction left with
  | nil => rfl
  | cons site rest ih =>
    cases wrong : offence site with
    | some error => simp [passed,wrong]
    | none =>
      rw [List.cons_append,passed_cons offence site _ wrong,passed_cons offence site _ wrong,ih,
        List.findSome?_cons,wrong]
      cases rest.findSome? offence <;> rfl

theorem builds_reports {limits : Limits} {bounds : Option Span} {first : Nat}
    {above nodes : List RawNode} {built : Built}
    (builds : Builds limits bounds first above nodes built) (shown : above.any isMissing = false) :
    built.errors =
      (passed (RawSite.offenceFrom limits bounds first)
        ((sitesAll above nodes).filter RawSite.checked)).filterMap RawSite.complaint? := by
  induction builds with
  | nil above => rfl
  | @cons above node rest one more head tail own others =>
    have failure := builds_failure head shown
    rw [sitesAll_cons,List.filter_append,passed_append,← failure]
    cases failed : one.failure with
    | some error =>
      rw [Built.andThen_failed one more (by simp [failed])]
      exact own shown
    | none =>
      have listed := own shown
      rw [passed_eq_self _ _ (failure.symm.trans failed)] at listed
      rw [Built.andThen_built one more failed,List.filterMap_append,← listed,← others shown]
      rfl
  | refused node error wrong => simp [checked_sites _ node shown,passed,wrong,Built.fail]
  | token node sound missing =>
    rw [checked_token _ node shown missing,passed_cons _ _ _ sound]
    simp [passed,RawSite.complaint?,missing]
  | region node sound present broken inside below =>
    rw [checked_sites _ node shown,passed_cons _ _ _ sound,List.filterMap_cons]
    simp only [RawSite.complaint?,present,broken]
    exact congrArg _ (below (shown_below _ node shown present))
  | regular node kind sound present parsed named inside below =>
    rw [checked_sites _ node shown,passed_cons _ _ _ sound,List.filterMap_cons,Built.wrap_errors]
    simp only [RawSite.complaint?,present,parsed]
    exact below (shown_below _ node shown present)

private theorem kept_unchecked (sites : List RawSite) (hidden : sites.filter RawSite.checked = []) :
    sites.filter RawSite.kept = [] := by
  rw [List.filter_eq_nil_iff] at hidden ⊢
  intro site member kept
  simp only [RawSite.kept,Bool.and_eq_true] at kept
  exact hidden site member kept.1.1

theorem builds_rows {limits : Limits} {bounds : Option Span} {first : Nat}
    {above nodes : List RawNode} {built : Built}
    (builds : Builds limits bounds first above nodes built) (shown : above.any isMissing = false)
    (accepted : built.failure = none) :
    List.Forall₂ RawSite.Shows ((sitesAll above nodes).filter RawSite.kept)
      (Node.rowsAll (levelBelow isError above) built.nodes) := by
  induction builds with
  | nil above => exact .nil
  | @cons above node rest one more head tail own others =>
    rw [Built.andThen_failure,Option.or_eq_none_iff] at accepted
    rw [sitesAll_cons,List.filter_append,Built.andThen_built one more accepted.1,Built.append,
      Node.rowsAll_append]
    exact List.rel_append (own shown accepted.1) (others shown accepted.2)
  | refused node error wrong => cases accepted
  | @token above node sound missing =>
    have hidden := sitesAll_unchecked (node :: above) node.children (by simp [missing])
    rw [sitesAll_singleton,List.filter_cons_of_neg (by simp [RawSite.kept,missing]),
      kept_unchecked _ hidden]
    exact .nil
  | @region above _ node sound present broken inside below =>
    have listed := below (shown_below above node shown present) accepted
    rw [levelBelow_removed isError above node broken] at listed
    rw [sitesAll_singleton,List.filter_cons_of_neg (by simp [RawSite.kept,broken])]
    exact listed
  | @regular above _ node kind sound present parsed named inside below =>
    rw [Built.wrap_failure] at accepted
    have listed := below (shown_below above node shown present) accepted
    have stays : RawSite.kept ⟨above,node⟩ = true := by
      simp [RawSite.kept,RawSite.checked,shown,present,parsed]
    rw [levelBelow_kept isError above node parsed] at listed
    rw [sitesAll_singleton,List.filter_cons_of_pos stays,Built.wrap_nodes _ _ accepted,
      Node.rowsAll,Node.rows,Node.rowsAll,List.append_nil]
    exact .cons ⟨rfl,named,rfl,rfl⟩ listed

end RawNode

namespace RawFile

theorem toFile_eq (limits : Limits) (file : RawFile) :
    file.toFile limits =
      match (RawNode.buildAll limits file.bounds 1 file.roots).failure with
      | some error => .error error
      | none =>
        let built := RawNode.buildAll limits file.bounds 1 file.roots
        .ok { File.ofRoots built.nodes built.errors with
          name := file.name
          sourceLength :=
            file.sourceLength.getD (File.ofRoots built.nodes built.errors).sourceLength } := by
  unfold toFile bounds
  generalize RawNode.buildAll limits _ 1 file.roots = built
  obtain ⟨nodes,errors,failure⟩ := built
  cases failure <;> rfl

private theorem buildAll_roots_failure (limits : Limits) (file : RawFile) :
    (RawNode.buildAll limits file.bounds 1 file.roots).failure =
      (file.sites.filter RawSite.checked).findSome? (RawSite.offence limits file.bounds) := by
  rw [← RawSite.offenceFrom_one]
  exact RawNode.builds_failure (RawNode.builds limits file.bounds 1 [] file.roots) rfl

theorem toFile_eq_error_iff (limits : Limits) (file : RawFile) (error : ImportError) :
    file.toFile limits = .error error ↔
      (file.sites.filter RawSite.checked).findSome? (RawSite.offence limits file.bounds) =
        some error := by
  rw [toFile_eq,← buildAll_roots_failure]
  cases (RawNode.buildAll limits file.bounds 1 file.roots).failure <;> simp

/-- An import fails exactly if a node that it looks at is wrong, and then with
what is wrong with the first of them. -/
theorem toFile_fails_first (limits : Limits) (file : RawFile) :
    ((∃ error, file.toFile limits = .error error) ↔
        ∃ site ∈ file.sites.filter RawSite.checked, site.offence limits file.bounds ≠ none) ∧
      ∀ error, file.toFile limits = .error error ↔
        ∃ before site after, file.sites.filter RawSite.checked = before ++ site :: after ∧
          (∀ earlier ∈ before, earlier.offence limits file.bounds = none) ∧
          site.offence limits file.bounds = some error := by
  constructor
  · simp only [toFile_eq_error_iff]
    rw [← Option.isSome_iff_exists,List.findSome?_isSome_iff]
    simp only [Option.isSome_iff_ne_none]
  · intro error
    rw [toFile_eq_error_iff,List.findSome?_eq_some_iff]
    constructor
    · rintro ⟨before,site,after,split,wrong,sound⟩
      exact ⟨before,site,after,split,sound,wrong⟩
    · rintro ⟨before,site,after,split,sound,wrong⟩
      exact ⟨before,site,after,split,wrong,sound⟩

private theorem ofRoots_sourceLength (roots : List Node) (errors : List SyntaxError) :
    (File.ofRoots roots errors).sourceLength = (roots.map (·.span.stop)).max?.getD 0 := by
  cases roots with
  | nil => rfl
  | cons root rest =>
    have first : max 0 root.span.stop = root.span.stop := if_pos UInt64.zero_le
    rw [File.ofRoots,List.foldl_cons,first,List.map_cons,List.max?_cons',Option.getD_some,
      List.foldl_map]

/-- A successful import keeps every node of the interchange tree that is one of
the tree, and reports every syntax error, in the order of the text. -/
theorem toFile_keeps_all (limits : Limits) (file : RawFile) (result : File)
    (imported : file.toFile limits = .ok result) :
    List.Forall₂ RawSite.Shows (file.sites.filter RawSite.kept) (Node.rowsAll 1 result.roots) ∧
      result.errors = (file.sites.filter RawSite.checked).filterMap RawSite.complaint? ∧
      result.name = file.name ∧
      result.sourceLength =
        file.sourceLength.getD ((result.roots.map (·.span.stop)).max?.getD 0) := by
  rw [toFile_eq] at imported
  cases failure : (RawNode.buildAll limits file.bounds 1 file.roots).failure with
  | some error => simp [failure] at imported
  | none =>
    have builds := RawNode.builds limits file.bounds 1 [] file.roots
    have rows := RawNode.builds_rows builds rfl failure
    have errors := RawNode.builds_reports builds rfl
    have sound := (RawNode.builds_failure builds rfl).symm.trans failure
    rw [RawNode.passed_eq_self _ _ sound] at errors
    simp only [failure,Except.ok.injEq] at imported
    subst imported
    refine ⟨rows,errors,rfl,?_⟩
    rw [ofRoots_sourceLength]
    rfl

def brokenBlock : RawFile where
  roots := [⟨"block",none,0,20,[
    ⟨"ERROR",some "?",1,10,[
      ⟨"break_statement",none,2,8,[]⟩,
      ⟨"ERROR",none,8,9,[⟨"return_statement",none,8,9,[]⟩]⟩]⟩,
    ⟨"MISSING ;",none,10,10,[⟨"anything",none,3,1,[]⟩]⟩,
    ⟨"continue_statement",none,11,20,[]⟩]⟩]

def brokenBlockFile : File where
  sourceLength := 20
  roots := [⟨.block,⟨0,20⟩,none,[
    ⟨.breakStatement,⟨2,8⟩,none,[]⟩,
    ⟨.returnStatement,⟨8,9⟩,none,[]⟩,
    ⟨.continueStatement,⟨11,20⟩,none,[]⟩]⟩]
  errors := [.unexpected (some "?") ⟨1,10⟩,.unexpected none ⟨8,9⟩,.missing ";" ⟨10,10⟩]

theorem brokenBlock_keeps_all :
    brokenBlock.toFile .standard = .ok brokenBlockFile ∧
      List.Forall₂ RawSite.Shows (brokenBlock.sites.filter RawSite.kept)
        (Node.rowsAll 1 brokenBlockFile.roots) ∧
      brokenBlockFile.errors =
        (brokenBlock.sites.filter RawSite.checked).filterMap RawSite.complaint? ∧
      brokenBlockFile.name = brokenBlock.name ∧
      brokenBlockFile.sourceLength =
        brokenBlock.sourceLength.getD
          ((brokenBlockFile.roots.map (·.span.stop)).max?.getD 0) := by
  have imported : brokenBlock.toFile .standard = .ok brokenBlockFile := rfl
  exact ⟨imported,toFile_keeps_all .standard brokenBlock brokenBlockFile imported⟩

end RawFile
end DartTree
