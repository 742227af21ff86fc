import HttpScenario.Url.Parser

/-! Sites: what stands in a URL before its path. A reference that names neither a scheme nor a host
of its own leads to a place on the site of its base; any other one leads where it would lead from any
site. -/

namespace HttpScenario.Url

def site (url : Url) : String := url.scheme ++ "://" ++ url.credentials ++ url.authority

structure SameSite (url other : Url) : Prop where
  scheme : url.scheme = other.scheme
  username : url.username = other.username
  password : url.password = other.password
  host : url.host = other.host
  port : url.port = other.port

structure Rooted (url : Url) : Prop where
  host : url.host.isSome = true
  path : ∃ first rest, url.path = .segments (first :: rest)

/-- Two slashes, after which a host is named. -/
def namesHost (cs : List Char) : Bool := 2 ≤ (cs.takeWhile (isSlash true)).length

/-- A reference with a host of its own, or with a scheme that is not that of the base. -/
def leadsAway (scheme : String) (reference : List Char) : Bool :=
  match splitScheme? reference with
  | some (own, rest) => own != scheme || namesHost rest
  | none => namesHost reference

def away (scheme : String) (reference : List Char) : Except Error Url :=
  match splitScheme? reference with
  | some (own, rest) => ofScheme none own rest
  | none => withAuthority scheme ((reference.drop 2).dropWhile (isSlash true))

variable {url other base : Url} {scheme : String} {cs : List Char}

theorem SameSite.trans {third : Url} (h : SameSite url other) (h' : SameSite other third) :
    SameSite url third :=
  ⟨h.scheme.trans h'.scheme, h.username.trans h'.username, h.password.trans h'.password,
    h.host.trans h'.host, h.port.trans h'.port⟩

theorem SameSite.site_eq (h : SameSite url other) : url.site = other.site := by
  simp only [site, credentials, authority, h.scheme, h.username, h.password, h.host, h.port]

theorem Rooted.text_eq (h : Rooted url) : ∃ rest, url.text = url.site ++ "/" ++ rest := by
  obtain ⟨first, rest, hpath⟩ := h.path
  obtain ⟨host, hhost⟩ := Option.isSome_iff_exists.mp h.host
  have hguard : url.guard = "" := by simp only [guard, hhost]
  refine ⟨first ++ String.join (rest.map ("/" ++ ·)) ++ marked "?" id url.query ++
    marked "#" id url.fragment, ?_⟩
  have hplace : url.path.text = "/" ++ first ++ String.join (rest.map ("/" ++ ·)) := by
    rw [hpath, Place.text, List.map_cons, String.join_cons]
  rw [text, if_pos h.host, hguard, hplace, site]
  simp only [String.append_assoc, String.empty_append]
  rfl

theorem rooted_withFinalSlash (h : Rooted url) :
    Rooted { url with path := url.path.withFinalSlash } := by
  obtain ⟨first, rest, hpath⟩ := h.path
  refine ⟨h.host, ?_⟩
  simp only [hpath, Place.withFinalSlash]
  split
  · exact ⟨first, rest, rfl⟩
  · exact ⟨first, rest ++ [""], rfl⟩

theorem walk_ne_nil (place : List String) {pieces : List (List Char)} (h : pieces ≠ []) :
    walk place pieces ≠ [] := by
  induction pieces generalizing place with
  | nil => exact absurd rfl h
  | cons piece rest ih =>
    rw [walk]
    split
    · exact List.append_ne_nil_of_right_ne_nil _ (List.cons_ne_nil _ _)
    · rename_i hmore
      cases rest with
      | cons next more => exact ih _ (List.cons_ne_nil _ _)
      | nil =>
        simp only [List.isEmpty_nil, true_and, not_or, Bool.not_eq_true] at hmore
        obtain ⟨hdot, hdouble⟩ := hmore
        simp [walk, hdot, hdouble]

theorem sameSite_finish (url : Url) (place : List String) (path : List Char)
    (query fragment : Option (List Char)) :
    SameSite (finish url place path query fragment) url := ⟨rfl, rfl, rfl, rfl, rfl⟩

theorem rooted_finish (h : url.host.isSome = true) (place : List String) (path : List Char)
    (query fragment : Option (List Char)) : Rooted (finish url place path query fragment) := by
  refine ⟨h, ?_⟩
  obtain ⟨first, rest, hwalk⟩ := List.exists_cons_of_ne_nil
    (walk_ne_nil place (List.splitOnP_ne_nil (isSlash (isSpecial url.scheme)) path))
  exact ⟨first, rest, congrArg Place.segments hwalk⟩

theorem sameSite_withTail (url : Url) (cs : List Char) : SameSite (withTail url cs) url := by
  rcases htail : splitTail cs with ⟨path, query, fragment⟩
  rw [withTail, htail]
  cases path with
  | nil => simp only; split <;> exact ⟨rfl, rfl, rfl, rfl, rfl⟩
  | cons c rest => exact sameSite_finish ..

theorem rooted_withTail (hspecial : isSpecial url.scheme = true) (h : url.host.isSome = true)
    (cs : List Char) : Rooted (withTail url cs) := by
  rcases htail : splitTail cs with ⟨path, query, fragment⟩
  rw [withTail, htail]
  cases path with
  | nil =>
    simp only [if_pos hspecial]
    exact rooted_finish h ..
  | cons c rest => exact rooted_finish h ..

theorem exists_withTail_of_withAuthority (h : withAuthority scheme cs = .ok url) :
    ∃ start tail, url = withTail start tail ∧ start.scheme = scheme ∧ start.host.isSome = true := by
  unfold withAuthority at h
  rcases hcredentials : splitCredentials
    (cs.takeWhile fun c => !decide (isSlash (isSpecial scheme) c ∨ c = '?' ∨ c = '#')) with
    ⟨username, password, address, named⟩
  rcases hport : splitPort false address with ⟨name, port⟩
  simp only [hcredentials, hport] at h
  split at h
  · split at h
    · exact ⟨_, _, (Except.ok.inj h).symm, rfl, rfl⟩
    · split at h
      · cases h
      · exact ⟨_, _, (Except.ok.inj h).symm, rfl, rfl⟩
  · cases hhost : Host.ofList (isSpecial scheme) name with
    | error cause =>
      rw [hhost] at h
      cases h
    | ok host =>
      cases hnumber : port? scheme (port.getD []) with
      | error cause =>
        rw [hhost, hnumber] at h
        cases h
      | ok number =>
        rw [hhost, hnumber] at h
        exact ⟨_, _, (Except.ok.inj h).symm, rfl, rfl⟩

section Reference

variable (hspecial : isSpecial base.scheme = true)

include hspecial

theorem relativeTo_of_not_namesHost (h : namesHost cs = false) :
    ∃ url, relativeTo base cs = .ok url ∧ SameSite url base ∧ (Rooted base → Rooted url) := by
  have hplain : SameSite { base with query := none, fragment := none } base :=
    ⟨rfl, rfl, rfl, rfl, rfl⟩
  cases cs with
  | nil => exact ⟨_, rfl, ⟨rfl, rfl, rfl, rfl, rfl⟩, fun hbase => ⟨hbase.host, hbase.path⟩⟩
  | cons c rest =>
    by_cases hslash : isSlash true c = true
    · refine ⟨withTail { base with query := none, fragment := none } (c :: rest), ?_,
        (sameSite_withTail ..).trans hplain, fun hbase => rooted_withTail hspecial hbase.host _⟩
      cases rest with
      | nil => simp only [relativeTo, hspecial, if_pos hslash]
      | cons d more =>
        have hnext : isSlash true d = false := Bool.eq_false_iff.mpr fun hd => by
          simp [namesHost, hslash, hd] at h
        simp only [relativeTo, hspecial, hslash, hnext, if_true, Bool.false_eq_true, if_false]
    · rcases htail : splitTail (c :: rest) with ⟨path, query, fragment⟩
      simp only [relativeTo, hspecial, if_neg hslash, htail]
      cases path with
      | nil => exact ⟨_, rfl, ⟨rfl, rfl, rfl, rfl, rfl⟩, fun hbase => ⟨hbase.host, hbase.path⟩⟩
      | cons d more =>
        exact ⟨_, rfl, sameSite_finish .., fun hbase => rooted_finish hbase.host ..⟩

theorem relativeTo_of_namesHost (h : namesHost cs = true) :
    relativeTo base cs = withAuthority base.scheme ((cs.drop 2).dropWhile (isSlash true)) := by
  match cs with
  | [] => cases h
  | [c] => cases hslash : isSlash true c <;> simp [namesHost, hslash] at h
  | c :: d :: more =>
    have hslashes : isSlash true c = true ∧ isSlash true d = true := by
      cases hslash : isSlash true c <;> cases hnext : isSlash true d <;>
        simp [namesHost, hslash, hnext] at h ⊢
    simp only [relativeTo, hspecial, hslashes.1, hslashes.2, if_true, List.drop_succ_cons,
      List.drop_zero]

variable (hfile : base.scheme ≠ "file") (hbase : Rooted base)

include hfile hbase

theorem parse_of_not_leadsAway {text : String}
    (h : leadsAway base.scheme (trimmed text.toList) = false) :
    ∃ url, parse (some base) text = .ok url ∧ SameSite url base ∧ Rooted url := by
  obtain ⟨first, rest, hpath⟩ := hbase.path
  unfold leadsAway at h
  cases hsplit : splitScheme? (trimmed text.toList) with
  | none =>
    rw [hsplit] at h
    simp only [parse, hsplit, hpath]
    obtain ⟨url, hurl, hsite, hrooted⟩ := relativeTo_of_not_namesHost hspecial h
    exact ⟨url, hurl, hsite, hrooted hbase⟩
  | some split =>
    obtain ⟨own, behind⟩ := split
    simp only [hsplit, Bool.or_eq_false_iff, bne_eq_false_iff_eq] at h
    -- The scheme of the base, without a host behind it, is read as if it were not there.
    obtain ⟨rfl, hbehind⟩ := h
    have hfew : (behind.takeWhile (isSlash true)).length < 2 :=
      Nat.lt_of_not_le (of_decide_eq_false hbehind)
    simp only [parse, hsplit, ofScheme, if_neg hfile, hspecial, if_true, Option.filter_some,
      BEq.rfl, hfew]
    obtain ⟨url, hurl, hsite, hrooted⟩ := relativeTo_of_not_namesHost hspecial hbehind
    exact ⟨url, hurl, hsite, hrooted hbase⟩

/-- Of the base no more than the scheme has a say. -/
theorem parse_of_leadsAway {text : String}
    (h : leadsAway base.scheme (trimmed text.toList) = true) :
    parse (some base) text = away base.scheme (trimmed text.toList) := by
  obtain ⟨first, rest, hpath⟩ := hbase.path
  unfold leadsAway at h
  cases hsplit : splitScheme? (trimmed text.toList) with
  | none =>
    rw [hsplit] at h
    simp only [parse, away, hsplit, hpath]
    exact relativeTo_of_namesHost hspecial h
  | some split =>
    obtain ⟨own, behind⟩ := split
    simp only [hsplit, Bool.or_eq_true, bne_iff_ne, ne_eq] at h
    simp only [parse, away, hsplit]
    by_cases hown : own = base.scheme
    · subst hown
      have hbehind : namesHost behind = true := h.resolve_left (not_not_intro rfl)
      have hmany : ¬(behind.takeWhile (isSlash true)).length < 2 :=
        Nat.not_lt.mpr (of_decide_eq_true hbehind)
      simp only [ofScheme, if_neg hfile, hspecial, if_true, Option.filter_some, BEq.rfl, hmany,
        if_false, Option.filter_none]
    · have hother : (base.scheme == own) = false := beq_eq_false_iff_ne.mpr (Ne.symm hown)
      simp only [ofScheme, Option.filter_some, hother, Bool.false_eq_true, if_false,
        Option.filter_none]

end Reference

def IsWeb (url : Url) : Prop := url.scheme = "http" ∨ url.scheme = "https"

theorem IsWeb.isSpecial (h : IsWeb url) : isSpecial url.scheme = true := by
  rcases h with h | h <;> rw [h] <;> decide

theorem IsWeb.ne_file (h : IsWeb url) : url.scheme ≠ "file" := by
  rcases h with h | h <;> rw [h] <;> decide

theorem rooted_of_withAuthority (hweb : IsWeb url) (h : withAuthority scheme cs = .ok url) :
    Rooted url := by
  obtain ⟨start, tail, rfl, -, hhost⟩ := exists_withTail_of_withAuthority h
  have hspecial := hweb.isSpecial
  rw [(sameSite_withTail start tail).scheme] at hspecial
  exact rooted_withTail hspecial hhost tail

theorem rooted_of_ofScheme (hweb : IsWeb url) (h : ofScheme none scheme cs = .ok url) :
    Rooted url := by
  simp only [ofScheme, Option.filter_none, Option.getD_none] at h
  split at h
  · rename_i hfile
    subst hfile
    split at h
    · exact rooted_of_withAuthority hweb h
    · rename_i hfew
      -- Such a URL leads to a file on this machine, so its scheme is not one of the web.
      have hspecial : isSpecial "file" = true := by decide
      have hlocal : namesHost cs = false := by
        rw [hspecial] at hfew
        simpa [namesHost] using hfew
      obtain ⟨target, htarget, hsite, -⟩ :=
        @relativeTo_of_not_namesHost { empty "file" with host := some (.domain "") } cs hspecial
          hlocal
      rw [htarget] at h
      cases h
      exact absurd hsite.scheme hweb.ne_file
  · split at h
    · exact rooted_of_withAuthority hweb h
    · rename_i hunknown
      split at h
      · exact rooted_of_withAuthority hweb h
      · have hscheme : url.scheme = scheme := by
          split at h <;> cases h
          · exact (sameSite_withTail ..).scheme
          · rfl
        exact absurd (hscheme ▸ hweb.isSpecial) hunknown

theorem rooted_of_parse {text : String} (hweb : IsWeb url) (h : parse none text = .ok url) :
    Rooted url := by
  cases hsplit : splitScheme? (trimmed text.toList) with
  | none => simp [parse, hsplit] at h
  | some split =>
    simp only [parse, hsplit] at h
    exact rooted_of_ofScheme hweb h

end HttpScenario.Url
