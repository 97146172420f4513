import MakeLauncher.Proofs.Launch.Sources
import MakeLauncher.Proofs.Root

/-! The paths that make gets to see in an installation: the build script, and the make that comes with it.
The check of white space looks at the root alone, and these paths are made from the root later. A root may
end in the middle of a character, so it counts that each of them goes on behind the root with a slash,
which no character goes on with. Main statement: the check comes to the same for them as for the root; so
neither has white space in it when the root is accepted, and a root that is refused is not mended by what
is joined to it. -/

namespace MakeLauncher

namespace Bytes

variable {base path : Bytes}

/-- Behind a base that is not empty a relative path stands with one slash before it, whether the slash
comes with the base or not. -/
theorem exists_join_eq_append_slash (hbase : base ≠ []) (hpath : path.isAbsolute = false) :
    ∃ front, (base = front ∨ base = front ++ [slash]) ∧ base.join path = front ++ slash :: path := by
  have hempty : base.isEmpty = false := List.isEmpty_eq_false_iff.mpr hbase
  rw [join, hpath, hempty, Bool.false_or, if_neg Bool.false_ne_true]
  by_cases hlast : base.getLast? = some slash
  · obtain ⟨front, rfl⟩ := List.getLast?_eq_some_iff.mp hlast
    refine ⟨front, .inr rfl, ?_⟩
    rw [if_pos (beq_iff_eq.mpr hlast), List.append_assoc, List.singleton_append]
  · refine ⟨base, .inl rfl, ?_⟩
    rw [if_neg (mt beq_iff_eq.mp hlast)]

theorem hasWhiteSpace_append_slash_cons (before after : Bytes) :
    (before ++ slash :: after).hasWhiteSpace = (before.hasWhiteSpace || after.hasWhiteSpace) := by
  have hslash : isWhiteSpace '/' = false := by decide
  have hread : (before ++ slash :: after).decode = before.decode ++ '/' :: after.decode :=
    decode_append_cons_of_form (by decide) before after
  simp only [hasWhiteSpace, hread, List.any_append, List.any_cons, hslash, Bool.false_or]

/-- A relative path neither hides white space of what it is joined to nor makes any up. -/
theorem hasWhiteSpace_join (base : Bytes) (hpath : path.isAbsolute = false) :
    (base.join path).hasWhiteSpace = (base.hasWhiteSpace || path.hasWhiteSpace) := by
  by_cases hbase : base = []
  · subst hbase
    have hjoin : join [] path = path := by simp [join, hpath]
    rw [hjoin]
    rfl
  obtain ⟨front, hfront, hjoin⟩ := exists_join_eq_append_slash hbase hpath
  rw [hjoin, hasWhiteSpace_append_slash_cons]
  rcases hfront with rfl | rfl
  · rfl
  · have hnone : hasWhiteSpace [] = false := rfl
    rw [hasWhiteSpace_append_slash_cons, hnone, Bool.or_false]

end Bytes

open Bytes

def scriptPath (root : Bytes) : Bytes := (root.join "core").join "build-local.mk"

/-- The paths in an installation that make gets to see, or that it is. -/
def places (root : Bytes) (platform : Platform) : List Bytes :=
  [scriptPath root, Make.prebuiltPath root platform]

theorem hasWhiteSpace_scriptPath (root : Bytes) :
    (scriptPath root).hasWhiteSpace = root.hasWhiteSpace := by
  have hdirectory : hasWhiteSpace "core" = false := by decide
  have hfile : hasWhiteSpace "build-local.mk" = false := by decide
  rw [scriptPath, hasWhiteSpace_join _ (by decide), hasWhiteSpace_join root (by decide), hdirectory,
    hfile, Bool.or_false, Bool.or_false]

theorem hasWhiteSpace_tag (platform : Platform) : hasWhiteSpace (ofText platform.tag) = false := by
  obtain ⟨family, processor⟩ := platform
  cases family <;> cases processor <;> decide

theorem hasWhiteSpace_prebuiltPath (root : Bytes) (platform : Platform) :
    (Make.prebuiltPath root platform).hasWhiteSpace = root.hasWhiteSpace := by
  have htools : hasWhiteSpace "prebuilt" = false ∧ hasWhiteSpace "bin" = false ∧
      hasWhiteSpace Make.defaultName = false := by decide
  calc (Make.prebuiltPath root platform).hasWhiteSpace
      = ((root.join "prebuilt").join platform.tag).hasWhiteSpace := by
        rw [Make.prebuiltPath, hasWhiteSpace_join _ (by decide), hasWhiteSpace_join _ (by decide),
          htools.2.1, htools.2.2, Bool.or_false, Bool.or_false]
    _ = root.hasWhiteSpace := by
        rw [hasWhiteSpace_join _ platform.tag_between_slashes.1, hasWhiteSpace_join _ (by decide),
          hasWhiteSpace_tag, htools.1, Bool.or_false, Bool.or_false]

theorem hasWhiteSpace_of_mem_places {root place : Bytes} {platform : Platform}
    (hplace : place ∈ places root platform) : place.hasWhiteSpace = root.hasWhiteSpace := by
  rcases List.mem_pair.mp hplace with rfl | rfl
  · exact hasWhiteSpace_scriptPath root
  · exact hasWhiteSpace_prebuiltPath root platform

theorem Launch.path_of_origin_eq_prebuilt {site : Site} {build : Build} {platform : Platform}
    {make : Make} (hmake : makeFor site build platform = .ok make)
    (horigin : make.origin = .prebuilt) : make.path = Make.prebuiltPath build.root platform := by
  obtain ⟨result, log, hfinds⟩ := exists_finds site build platform
  have hresult : result = .ok make := by
    rw [← hmake, makeFor, hfinds.outcome_findMake]
  subst hresult
  cases hfinds with
  | chosen => cases horigin
  | prebuilt => rfl
  | searched => cases horigin

/-- The check of a root comes to the same for the paths that are made from it. So a build has a script and
a prebuilt make with no white space in their paths, and what is made from a root that is refused would be
refused. -/
theorem checkRoot_same_for_places (root : Bytes) (platform : Platform) :
    (∀ place ∈ places root platform,
      (checkRoot place = .ok () ↔ checkRoot root = .ok ()) ∧
      (checkRoot place = .error (.whiteSpaceInRoot place) ↔
        checkRoot root = .error (.whiteSpaceInRoot root))) ∧
    ∀ (request : Request) (build : Build), request.root = root →
      Build.ofRequest request = .ok build →
        (∀ program, ∃ rest, (build.invocation program).arguments =
          ofText "-O" :: ofText "-f" :: scriptPath root :: rest) ∧
        (∀ site make, Launch.makeFor site build platform = .ok make → make.origin = .prebuilt →
          make.path = Make.prebuiltPath root platform) ∧
        ∀ place ∈ places root platform, ∀ c, isWhiteSpace c = true →
          ¬String.utf8EncodeChar c <:+: place := by
  refine ⟨fun place hplace => ?_, fun request build hroot hbuild => ?_⟩
  · rw [checkRoot_eq_ok_iff, checkRoot_eq_ok_iff, checkRoot_eq_error_iff, checkRoot_eq_error_iff,
      hasWhiteSpace_of_mem_places hplace]
    simp
  · obtain rfl := Build.ofRequest_eq_ok_iff.mp hbuild
    subst hroot
    refine ⟨fun program => ⟨_, rfl⟩, fun site make hmake horigin => ?_, fun place hplace c hc => ?_⟩
    · exact Launch.path_of_origin_eq_prebuilt hmake horigin
    · intro hinfix
      have hspace : place.hasWhiteSpace = true := hasWhiteSpace_eq_true_iff.mpr ⟨c, hc, hinfix⟩
      rw [hasWhiteSpace_of_mem_places hplace, build.clean] at hspace
      cases hspace

/-- A root that breaks off in the middle of a character, where a byte more would make it an odd space. -/
def cutRoot : Bytes := ofText "/ndk" ++ [0xE2, 0x80]

/-- A build in the installation at that root. -/
def cutBuild : Build where
  root := cutRoot
  directory := "/"
  arguments := []
  environment := {}
  clean := by decide

/-- A site where all paths are files. -/
def fullSite : Site := ⟨⟨fun _ => true, fun _ => false⟩, "/", "/"⟩

theorem checkRoot_same_for_places_of_cutRoot :
    cutRoot ++ ofText "/core/build-local.mk" ∈ places cutRoot ⟨.linux, .x86_64⟩ ∧
    checkRoot (cutRoot ++ ofText "/core/build-local.mk") = .ok () ∧
    cutBuild.toRequest.root = cutRoot ∧ Build.ofRequest cutBuild.toRequest = .ok cutBuild ∧
    (∃ rest, (cutBuild.invocation "/bin/make").arguments =
      ofText "-O" :: ofText "-f" :: (cutRoot ++ ofText "/core/build-local.mk") :: rest) ∧
    (∃ make : Make, Launch.makeFor fullSite cutBuild ⟨.linux, .x86_64⟩ = .ok make ∧
      make.origin = .prebuilt ∧ make.path = cutRoot ++ ofText "/prebuilt/linux-x86_64/bin/make") ∧
    isWhiteSpace '\u2003' = true ∧
    ¬String.utf8EncodeChar '\u2003' <:+: cutRoot ++ ofText "/core/build-local.mk" ∧
    ¬checkRoot (Make.prebuiltPath (cutRoot ++ [0x83]) ⟨.linux, .x86_64⟩) = .ok () := by
  have hscript : scriptPath cutRoot = cutRoot ++ ofText "/core/build-local.mk" := by decide
  have hprebuilt : Make.prebuiltPath cutRoot ⟨.linux, .x86_64⟩ =
      cutRoot ++ ofText "/prebuilt/linux-x86_64/bin/make" := by decide
  have hplace : scriptPath cutRoot ∈ places cutRoot ⟨.linux, .x86_64⟩ := List.mem_cons_self
  have hcut : checkRoot cutRoot = .ok () := by decide
  have hwhole : ¬checkRoot (cutRoot ++ [0x83]) = .ok () := by decide
  have hbuild : Build.ofRequest cutBuild.toRequest = .ok cutBuild := rfl
  have hfound : Launch.makeFor fullSite cutBuild ⟨.linux, .x86_64⟩ =
      .ok ⟨Make.prebuiltPath cutRoot ⟨.linux, .x86_64⟩, .prebuilt⟩ := rfl
  have hspace : isWhiteSpace '\u2003' = true := by decide
  obtain ⟨hcheck, hbuilds⟩ := checkRoot_same_for_places cutRoot ⟨.linux, .x86_64⟩
  obtain ⟨harguments, hpath, hclean⟩ := hbuilds cutBuild.toRequest cutBuild rfl hbuild
  obtain ⟨hcheck', -⟩ := checkRoot_same_for_places (cutRoot ++ [0x83]) ⟨.linux, .x86_64⟩
  rw [← hscript]
  refine ⟨hplace, ((hcheck _ hplace).1).mpr hcut, rfl, hbuild, harguments "/bin/make",
    ⟨_, hfound, rfl, ?_⟩, hspace, hclean _ hplace _ hspace, ?_⟩
  · exact (hpath fullSite _ hfound rfl).trans hprebuilt
  · rw [(hcheck' _ (List.mem_cons_of_mem _ List.mem_cons_self)).1]
    exact hwhole

end MakeLauncher
