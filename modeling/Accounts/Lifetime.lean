import Accounts.Lineage

/-!
# The lifetime of a session

The settings call `refresh_ttl_seconds` the hard cap on a session. The code
gives every token that lifetime anew, counted from its own issue: a token
of a session that began at `t₀` is accepted until its issue plus the
lifetime, which rotation moves past `t₀` plus the lifetime.

`session_cap_iff` says exactly when a run keeps the cap nevertheless: when
nobody presents a live token in the window between the two.

When a session began and when a token was issued are read off the run, as
the first request after which there is a token of the session, or the
token.
-/

open Repository

variable {P : Platform} {env : Env} {is js : List (Env × Request)}

/-- **When a session began** in a run from the empty database. -/
def sessionStart (P : Platform) (is : List (Env × Request)) (sessionId : UUID) : Option Datetime :=
  ((service P).firstWhen (fun d => d.refreshTokens.any (fun r => r.sessionId = sessionId))
    (Store.empty schema) is).map (fun i => i.1.now)

/-- **When a token was issued** in a run from the empty database. -/
def issuedAt (P : Platform) (is : List (Env × Request)) (tokenId : UUID) : Option Datetime :=
  ((service P).firstWhen (fun d => d.refreshTokens.any (fun r => r.id = tokenId))
    (Store.empty schema) is).map (fun i => i.1.now)

/-- What every token of a state has with respect to the run that led to it:
it expires its lifetime after it was issued, and its session began when
the lifetime could be added. -/
structure Dated (P : Platform) (is : List (Env × Request)) (r : RefreshToken) : Prop where
  /-- The expiry is counted from the issue of the token. -/
  issued : ∃ m e, issuedAt P is r.id = some m ∧
    m.plusSeconds P.settings.refreshTtlSeconds = some e ∧ r.expiresAt = some e
  /-- The cap of the session is a point of time. -/
  started : ∃ t₀ cap, sessionStart P is r.sessionId = some t₀ ∧
    t₀.plusSeconds P.settings.refreshTtlSeconds = some cap

/-! ## The history -/

section History

variable (p : RefreshToken → UUID) (hp : ∀ {x x' : RefreshToken}, x.Evolves x' → p x' = p x)

include hp

/-- There being a token with a value in a column that tokens keep is
stable. -/
theorem any_stable (k : UUID) (d : Database) (i : Env × Request)
    (h : d.refreshTokens.any (fun r => p r = k) = true) :
    ((service P).next d i).refreshTokens.any (fun r => p r = k) = true := by
  obtain ⟨x, hx, hk⟩ := List.any_eq_true.mp h
  obtain ⟨x', hx', hev⟩ := (tokenStep_serve P i.1 i.2 d).evolves d.tokenKey hx
  refine List.any_eq_true.mpr ⟨x', hx', ?_⟩
  rw [hp hev]
  exact hk

/-- **A value that no token of the state has, and that the next request
brings, is first reached by that request.** -/
theorem firstWhen_new {i : Env × Request} {x' : RefreshToken}
    (hnew : ∀ x ∈ ((service P).run (Store.empty schema) is).refreshTokens, p x ≠ p x')
    (hx' : x' ∈ ((service P).next ((service P).run (Store.empty schema) is) i).refreshTokens) :
    (service P).firstWhen (fun d => d.refreshTokens.any (fun r => p r = p x'))
      (Store.empty schema) (is ++ [i]) = some i := by
  refine Process.firstWhen_of_none (Decidable.not_not.mp (fun h => ?_))
    (List.any_eq_true.mpr ⟨x', hx', decide_eq_true rfl⟩)
  have hany : ((service P).run (Store.empty schema) is).refreshTokens.any
      (fun r => p r = p x') = true :=
    Process.firstWhen_stable
      (p := fun d : Database => d.refreshTokens.any (fun r => p r = p x'))
      (any_stable p hp (p x')) h
  obtain ⟨x, hx, hk⟩ := List.any_eq_true.mp hany
  exact hnew x hx (of_decide_eq_true hk)

end History

/-- What was dated stays dated as the run goes on. -/
theorem Dated.snoc {r : RefreshToken} (h : Dated P is r) (i : Env × Request) :
    Dated P (is ++ [i]) r := by
  have hsome : ∀ {q : Database → Bool} {t : Datetime},
      ((service P).firstWhen q (Store.empty schema) is).map (fun i => i.1.now) = some t →
      ((service P).firstWhen q (Store.empty schema) (is ++ [i])).map (fun i => i.1.now)
        = some t := by
    intro q t ht
    obtain ⟨i', hi', rfl⟩ := Option.map_eq_some_iff.mp ht
    rw [Process.firstWhen_of_some hi']
    rfl
  obtain ⟨⟨m, e, hm, he⟩, t₀, cap, ht₀, hcap⟩ := h
  exact ⟨⟨m, e, hsome hm, he⟩, t₀, cap, hsome ht₀, hcap⟩

/-- **Every token of a state a run reaches is dated.** -/
theorem Dated.run (hfresh : FreshRun P (Store.empty schema) is) :
    ∀ r ∈ ((service P).run (Store.empty schema) is).refreshTokens, Dated P is r := by
  refine (service P).history_invariant
    (fun is d => ∀ r ∈ d.refreshTokens, Dated P is r) (by rintro r ⟨⟩) ?_ hfresh
  intro is i ih hf x' hx'
  rcases (tokenStep_serve P i.1 i.2 _).origin hx' with
    ⟨x, hx, hev⟩ | ⟨⟨hid, e, he, hexp⟩, hsession, -⟩
  · have hd := (ih x hx).snoc i
    exact ⟨by rw [hev.id, hev.expiresAt]; exact hd.issued, by rw [hev.sessionId]; exact hd.started⟩
  · refine ⟨⟨i.1.now, e, ?_, he, hexp⟩, ?_⟩
    · rw [issuedAt, firstWhen_new RefreshToken.id (fun h => h.id) (fun x hx h =>
        hf.id .refreshToken x hx (h.trans hid)) hx']
      rfl
    · rcases hsession with hs | ⟨row, hrow, hs, -, -⟩
      · refine ⟨i.1.now, e, ?_, he⟩
        rw [sessionStart, firstWhen_new RefreshToken.sessionId (fun h => h.sessionId)
          (fun x hx h => hf.session x hx (h.trans hs)) hx']
        rfl
      · rw [← hs]
        exact ((ih row hrow).snoc i).started

/-! ## The result -/

/-- **`refresh` returns exactly for an exchangeable token**, when the
expiries of its successor and of the access token can be represented. -/
theorem refresh_ok_iff {d : Database} (hl : Lineages d.refreshTokens) (hf : env.Fresh P d)
    {raw : String} :
    (∃ response, (service P).answer d (env, .auth (.refresh raw)) = .ok response) ↔
      (∃ row ∈ d.refreshTokens, row.Exchangeable P env raw) ∧
        (env.now.plusSeconds P.settings.refreshTtlSeconds).isSome ∧
        (env.now.plusSeconds P.settings.jwtTtlSeconds).isSome := by
  have hrun : (∃ response, (service P).answer d (env, .auth (.refresh raw)) = .ok response) ↔
      ∃ a s', (AuthService.refresh P env raw).Returns ⟨d, d⟩ a s' := by
    constructor
    · rintro ⟨response, ha⟩
      obtain ⟨s', hret, -⟩ := Tx.serve_ok_iff.mp
        (show serve P env (.auth (.refresh raw)) d = (.ok response, _) from Prod.ext ha rfl)
      obtain ⟨a, s₁, h, -⟩ := Tx.returns_bind.mp hret
      exact ⟨a, s₁, h⟩
    · rintro ⟨a, s', h⟩
      have hs : serve P env (.auth (.refresh raw)) d = (.ok (.tokens a), _) :=
        Tx.serve_ok_iff.mpr ⟨s', Tx.returns_bind.mpr ⟨a, s', h, Tx.returns_pure.mpr ⟨rfl, rfl⟩⟩,
          rfl⟩
      exact ⟨_, congrArg Prod.fst hs⟩
  rw [hrun]
  constructor
  · rintro ⟨a, s', h⟩
    obtain ⟨row, access, haccess, -, -, -, hrot⟩ := AuthService.refresh_returns.mp h
    obtain ⟨hex, hexp⟩ := (rotate_ok_iff hl hf).mp
      ⟨_, congrArg Prod.fst (Tx.serve_ok_iff.mpr ⟨s', hrot, rfl⟩)⟩
    exact ⟨hex, hexp, TokenService.issue_ok_iff.mp ⟨access, haccess⟩⟩
  · rintro ⟨⟨row, hmem, hex⟩, hexp, hjwt⟩
    exact AuthService.refresh_of_exchangeable hf hmem hex hexp hjwt

/-- **The cap**: in the run, no `refresh` that presents a token of a session
returns later than the lifetime after the session began. -/
def KeepsCap (P : Platform) (is : List (Env × Request)) : Prop :=
  ∀ js env raw ks, is = js ++ (env, .auth (.refresh raw)) :: ks →
    ∀ sessionId, Presents P ((service P).run (Store.empty schema) js) raw sessionId →
    ∀ t₀ cap, sessionStart P js sessionId = some t₀ →
      t₀.plusSeconds P.settings.refreshTtlSeconds = some cap →
      (∃ response, (service P).answer ((service P).run (Store.empty schema) js)
        (env, .auth (.refresh raw)) = .ok response) →
      env.now ≤ cap

/-- **Nobody outlives the cap**: in the run, no `refresh` presents a live
token at a time that is past the cap of its session but before the
lifetime of the token itself is over – unless the clock is so close to the
end of the calendar that an expiry cannot be represented. -/
def NobodyOutlivesCap (P : Platform) (is : List (Env × Request)) : Prop :=
  ∀ js env raw ks, is = js ++ (env, .auth (.refresh raw)) :: ks →
    ∀ row ∈ ((service P).run (Store.empty schema) js).refreshTokens,
      row.tokenHash = RefreshTokenCodec.hash P raw → row.Live →
    ∀ t₀ cap, sessionStart P js row.sessionId = some t₀ →
      t₀.plusSeconds P.settings.refreshTtlSeconds = some cap →
    ∀ m e, issuedAt P js row.id = some m →
      m.plusSeconds P.settings.refreshTtlSeconds = some e →
      (env.now.plusSeconds P.settings.refreshTtlSeconds).isSome →
      (env.now.plusSeconds P.settings.jwtTtlSeconds).isSome →
      ¬ (cap < env.now ∧ env.now < e)

/-- **A run keeps the cap exactly when nobody outlives it.** -/
theorem session_cap_iff (P : Platform) (is : List (Env × Request))
    (hfresh : FreshRun P (Store.empty schema) is) : KeepsCap P is ↔ NobodyOutlivesCap P is := by
  constructor
  · rintro hkeep js env raw ks rfl row hmem hhash hlive t₀ cap ht₀ hcap m e hm he hexp hjwt
      ⟨hlate, hlt⟩
    obtain ⟨hjs, hf, -⟩ := ((service P).every_append _ _ js _).mp hfresh
    have hl := Lineages.run ((service P).every_mono (fun _ _ h => h.session) hjs)
    -- the token expires its lifetime after its own issue, so it is accepted
    obtain ⟨m', e', hm', he', hrow⟩ := (Dated.run hjs row hmem).issued
    obtain rfl := Option.some.inj (hm.symm.trans hm')
    obtain rfl := Option.some.inj (he.symm.trans he')
    have hok := (refresh_ok_iff hl hf).mpr
      ⟨⟨row, hmem, hhash, hlive, e, hrow, hlt⟩, hexp, hjwt⟩
    exact absurd (hkeep js env raw ks rfl row.sessionId ⟨row, hmem, hhash, rfl⟩ t₀ cap ht₀ hcap
      hok) (not_le.mpr hlate)
  · rintro hnot js env raw ks rfl sessionId ⟨row, hmem, hhash, rfl⟩ t₀ cap ht₀ hcap hok
    obtain ⟨hjs, hf, -⟩ := ((service P).every_append _ _ js _).mp hfresh
    have hl := Lineages.run ((service P).every_mono (fun _ _ h => h.session) hjs)
    obtain ⟨⟨row', hmem', hhash', hlive, e, hrow, hlt⟩, hexp, hjwt⟩ := (refresh_ok_iff hl hf).mp hok
    obtain rfl := RefreshTokenService.eq_of_tokenHash hmem hmem' (hhash.trans hhash'.symm)
    obtain ⟨m, e', hm, he, hrow'⟩ := (Dated.run hjs row hmem).issued
    obtain rfl := Option.some.inj (hrow.symm.trans hrow')
    exact not_lt.mp (fun hlate => hnot js env raw ks rfl row hmem hhash hlive t₀ cap ht₀ hcap m e
      hm he hexp hjwt ⟨hlate, hlt⟩)

/-- The result at a login followed by a rotation. -/
theorem session_cap_iff_rotation :
    KeepsCap (Sample.platform 100)
      [(Sample.env 1 (Sample.second 0), .auth (.signup (Sample.signup "ada@example.org" none))),
        (Sample.env 2 (Sample.second 60), .auth (.refresh "refresh-1"))] ↔
    NobodyOutlivesCap (Sample.platform 100)
      [(Sample.env 1 (Sample.second 0), .auth (.signup (Sample.signup "ada@example.org" none))),
        (Sample.env 2 (Sample.second 60), .auth (.refresh "refresh-1"))] :=
  session_cap_iff (Sample.platform 100) _ (by decide +kernel)

/-- **A session outlives the cap**: with a lifetime of 100 seconds, a
session that began at second 0 and was rotated at second 60 is refreshed at
second 150. -/
theorem session_outlives_cap :
    ∃ (P : Platform) (is : List (Env × Request)), 0 < P.settings.refreshTtlSeconds ∧
      FreshRun P (Store.empty schema) is ∧ is.Pairwise (fun i j => i.1.now ≤ j.1.now) ∧
      ¬ KeepsCap P is := by
  refine ⟨Sample.platform 100,
    [(Sample.env 1 (Sample.second 0), .auth (.signup (Sample.signup "ada@example.org" none))),
      (Sample.env 2 (Sample.second 60), .auth (.refresh "refresh-1")),
      (Sample.env 3 (Sample.second 150), .auth (.refresh "refresh-2"))],
    by decide, by decide +kernel, by decide +kernel, fun hkeep => ?_⟩
  have hok : ∃ response, (service (Sample.platform 100)).answer
      ((service (Sample.platform 100)).run (Store.empty schema)
        [(Sample.env 1 (Sample.second 0), .auth (.signup (Sample.signup "ada@example.org" none))),
          (Sample.env 2 (Sample.second 60), .auth (.refresh "refresh-1"))])
      (Sample.env 3 (Sample.second 150), .auth (.refresh "refresh-2")) = .ok response := by
    refine Except.isOk_iff_exists.mp ?_
    decide +kernel
  have hcap := hkeep
    [(Sample.env 1 (Sample.second 0), .auth (.signup (Sample.signup "ada@example.org" none))),
      (Sample.env 2 (Sample.second 60), .auth (.refresh "refresh-1"))]
    (Sample.env 3 (Sample.second 150)) "refresh-2" [] rfl 1001#128 (by decide +kernel)
    (Sample.second 0) (Sample.second 100) (by decide +kernel) (by decide +kernel) hok
  exact absurd hcap (by decide +kernel)
