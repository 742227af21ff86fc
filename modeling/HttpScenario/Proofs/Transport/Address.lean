import HttpScenario.Proofs.Url.Site
import HttpScenario.Transport.Address

/-! Where addresses of requests lead. One without a scheme or a host of its own is completed to a
place on the site of the base, but only if it has no colon with two slashes in it. -/

namespace HttpScenario.Transport

variable {base url : String} {root : Url}

def stripped (url : String) : String := String.ofList (url.toList.dropWhile (· = '/'))

def reference (url : String) : List Char := Url.trimmed (stripped url).toList

theorem holds_site (url : Url) (rest : String) : isAbsolute (url.site ++ "/" ++ rest) = true := by
  rw [isAbsolute, Text.holds, Text.holdsList_iff]
  refine ⟨url.scheme.toList, (url.credentials ++ url.authority ++ "/" ++ rest).toList, ?_⟩
  simp only [Url.site, String.toList_append, List.append_assoc]

def directory (root : Url) : Url := { root with path := root.path.withFinalSlash }

def joined (root : Url) (url : String) : Except Url.Error Url :=
  Url.parse (some (directory root)) (stripped url)

theorem resolve_of_not_absolute (hbase : Url.parse none base = .ok root)
    (habsolute : isAbsolute url = false) (hne : url ≠ "") :
    resolve (some base) url =
      ((joined root url).map Url.text).mapError (.notJoined base url) := by
  simp only [resolve, habsolute, Bool.false_eq_true, if_false, Option.elim_some, join, hbase,
    if_neg hne]
  rw [joined, directory, stripped]
  cases Url.parse _ _ <;> rfl

theorem resolve_of_not_leadsAway (hbase : Url.parse none base = .ok root) (hweb : root.IsWeb)
    (habsolute : isAbsolute url = false)
    (hstays : Url.leadsAway root.scheme (reference url) = false) :
    ∃ rest, resolve (some base) url = .ok (root.site ++ "/" ++ rest) := by
  have hrooted := Url.rooted_of_parse hweb hbase
  by_cases hempty : url = ""
  · obtain ⟨rest, htext⟩ := hrooted.text_eq
    subst hempty
    refine ⟨rest, ?_⟩
    simp only [resolve, habsolute, Bool.false_eq_true, if_false, Option.elim_some, join, hbase,
      if_true, htext]
  · have hwebDirectory : (directory root).IsWeb := hweb
    obtain ⟨target, htarget, hsite, htargetRooted⟩ := Url.parse_of_not_leadsAway
      hwebDirectory.isSpecial hwebDirectory.ne_file (Url.rooted_withFinalSlash hrooted) hstays
    have hjoined : joined root url = .ok target := htarget
    have hdirectory : (directory root).site = root.site := rfl
    obtain ⟨rest, htext⟩ := htargetRooted.text_eq
    refine ⟨rest, ?_⟩
    rw [resolve_of_not_absolute hbase habsolute hempty, hjoined, ← hdirectory, ← hsite.site_eq,
      ← htext]
    rfl

theorem joined_of_leadsAway (hweb : root.IsWeb) (hrooted : root.Rooted)
    (haway : Url.leadsAway root.scheme (reference url) = true) :
    joined root url = Url.away root.scheme (reference url) := by
  have hwebDirectory : (directory root).IsWeb := hweb
  exact Url.parse_of_leadsAway hwebDirectory.isSpecial hwebDirectory.ne_file
    (Url.rooted_withFinalSlash hrooted) haway

/-- An address that holds a colon with two slashes is taken as it is, wherever they stand in it. Any
other one leads to the site of the base, unless it names a scheme or a host when the slashes at its
beginning are left out; then it leads to the same place from all bases of the same scheme. -/
theorem address_of_resolve (hbase : Url.parse none base = .ok root) (hweb : root.IsWeb)
    (url : String) :
    (isAbsolute url = true → resolve (some base) url = .ok url) ∧
    (isAbsolute url = false → Url.leadsAway root.scheme (reference url) = false →
      ∃ rest, resolve (some base) url = .ok (root.site ++ "/" ++ rest) ∧
        root.site ++ "/" ++ rest ≠ url) ∧
    (isAbsolute url = false → Url.leadsAway root.scheme (reference url) = true →
      ∀ other twin, Url.parse none other = .ok twin → twin.scheme = root.scheme →
        (resolve (some other) url).toOption = (resolve (some base) url).toOption) := by
  refine ⟨fun habsolute => ?_, fun habsolute hstays => ?_,
    fun habsolute haway other twin hother hscheme => ?_⟩
  · rw [resolve, if_pos habsolute]
  · obtain ⟨rest, hrest⟩ := resolve_of_not_leadsAway hbase hweb habsolute hstays
    refine ⟨rest, hrest, fun heq => ?_⟩
    have hholds := holds_site root rest
    rw [heq, habsolute] at hholds
    cases hholds
  · have hne : url ≠ "" := by
      rintro rfl
      exact Bool.false_ne_true haway
    have hwebTwin : twin.IsWeb := by rwa [Url.IsWeb, hscheme]
    have hjoined : joined twin url = joined root url := by
      rw [joined_of_leadsAway hweb (Url.rooted_of_parse hweb hbase) haway,
        joined_of_leadsAway hwebTwin (Url.rooted_of_parse hwebTwin hother) (hscheme ▸ haway),
        hscheme]
    rw [resolve_of_not_absolute hbase habsolute hne, resolve_of_not_absolute hother habsolute hne,
      hjoined]
    cases joined root url <;> rfl

namespace Sample

def redirect : String := "/redirect?to=http://q.test/"

def api : Url := ⟨"http", "", "", some (.domain "base.test"), none, .segments ["api"], none, none⟩

end Sample

theorem address_of_sample_resolve :
    Url.parse none "http://base.test/api" = .ok Sample.api ∧ Sample.api.IsWeb ∧
    resolve (some "http://base.test/api") Sample.redirect = .ok Sample.redirect := by
  have hbase : Url.parse none "http://base.test/api" = .ok Sample.api := by rfl
  have hweb : Sample.api.IsWeb := .inl rfl
  exact ⟨hbase, hweb, (address_of_resolve hbase hweb Sample.redirect).1 (by decide)⟩

end HttpScenario.Transport
