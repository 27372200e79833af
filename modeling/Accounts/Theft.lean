import Accounts.Sessions

/-!
# The detection of theft is final

Presenting a used refresh token makes `refresh` report reuse, and burns the
session; so does `logout`. After that the tokens of the session never
change again, none is added and none is ever accepted
(`theft_detection_final`) – over every serial run of requests, of whatever
kind, in which sessions are new.

The request that reports reuse ends in an `UnauthorizedError`. That its
revocation is kept nevertheless is a matter of the transaction: the error
is handled, so it commits.
-/

open Repository

variable {P : Platform} {d : Database} {i : Env × Request} {sessionId : UUID} {raw : String}

/-! ## What requests do to a session -/

/-- The text is a stored token of the session. -/
def Presents (P : Platform) (d : Database) (raw : String) (sessionId : UUID) : Prop :=
  ∃ row ∈ d.refreshTokens, row.tokenHash = RefreshTokenCodec.hash P raw ∧
    row.sessionId = sessionId

instance : Decidable (Presents P d raw sessionId) := by
  unfold Presents
  infer_instance

/-- **The request ends the session**: it is a `logout` with one of its
tokens, or a `refresh` that reports the reuse of one. -/
def Burns (P : Platform) (d : Database) (i : Env × Request) (sessionId : UUID) : Prop :=
  ∃ raw, Presents P d raw sessionId ∧ (i.2 = .auth (.logout raw) ∨
    i.2 = .auth (.refresh raw) ∧ (service P).answer d i = .error .tokenReuse)

/-- **The request is a `refresh` that accepts a token of the session.** -/
def Accepts (P : Platform) (d : Database) (i : Env × Request) (sessionId : UUID) : Prop :=
  ∃ raw, i.2 = .auth (.refresh raw) ∧ Presents P d raw sessionId ∧
    ∃ response, (service P).answer d i = .ok response

/-- A request that refreshes and returns has exchanged a live token. -/
theorem refresh_ok {env : Env} {response : Response} {d' : Database}
    (h : serve P env (.auth (.refresh raw)) d = (.ok response, d')) :
    ∃ row ∈ d.refreshTokens, row.tokenHash = RefreshTokenCodec.hash P raw ∧ row.Live ∧
      RefreshTokenService.isExpired env row = false ∧
      ∃ exp, env.now.plusSeconds P.settings.refreshTtlSeconds = some exp ∧
        d'.rows = Schema.insert .refreshToken
          (RefreshTokenService.newToken P env row.familyId row.familyMemberId row.sessionId exp)
          (schema.replace .refreshToken (row.consume env.now) d.rows) := by
  obtain ⟨s', hret, rfl⟩ := Tx.serve_ok_iff.mp h
  obtain ⟨a, h₁, -⟩ := Tx.returns_bind_pure.mp hret
  obtain ⟨_, _, -, -, -, -, h₂⟩ := AuthService.refresh_returns.mp h₁
  obtain ⟨row, hmem, hhash, hlive, hexpired, exp, hexp, -, d', hd', rfl⟩ :=
    RefreshTokenService.rotate_returns.mp h₂
  exact ⟨row, hmem, hhash, hlive, hexpired, exp, hexp, hd'⟩

/-- Only a live token is accepted. -/
theorem Accepts.live (h : Accepts P d i sessionId) :
    ∃ row ∈ sessionRows sessionId d.refreshTokens, row.Live := by
  obtain ⟨env, req⟩ := i
  obtain ⟨raw, rfl, ⟨row, hmem, hhash, hs⟩, response, ha⟩ := h
  obtain ⟨row', hmem', hhash', hlive, -⟩ := refresh_ok
    (show serve P env (.auth (.refresh raw)) d = (.ok response, _) from Prod.ext ha rfl)
  obtain rfl := RefreshTokenService.eq_of_tokenHash hmem hmem' (hhash.trans hhash'.symm)
  exact ⟨row, mem_sessionRows.mpr ⟨hmem, hs⟩, hlive⟩

/-- **A request that ends a session leaves it burnt.** -/
theorem Burns.burnt (h : Burns P d i sessionId) :
    Burnt sessionId ((service P).next d i).refreshTokens := by
  obtain ⟨env, req⟩ := i
  obtain ⟨raw, ⟨row, hmem, hhash, rfl⟩, rfl | ⟨rfl, ha⟩⟩ := h
  · obtain ⟨d', hd', hret⟩ := RefreshTokenService.revoke_stored env (s := ⟨d, d⟩)
      hmem hhash
    have hs : serve P env (.auth (.logout raw)) d = (.ok .done, d') := Tx.serve_ok_iff.mpr
      ⟨_, Tx.returns_bind.mpr ⟨(), _, hret, Tx.returns_pure.mpr ⟨rfl, rfl⟩⟩, rfl⟩
    have hnext : (service P).next d (env, .auth (.logout raw)) = d' := congrArg Prod.snd hs
    rw [hnext, Database.refreshTokens, hd', Function.update_self]
    exact Burnt.of_burn hmem env.now
  · obtain ⟨d', hs⟩ : ∃ d', serve P env (.auth (.refresh raw)) d = (.error .tokenReuse, d') :=
      ⟨_, Prod.ext ha rfl⟩
    have hnext : (service P).next d (env, .auth (.refresh raw)) = d' := congrArg Prod.snd hs
    obtain ⟨s', hr, hd'⟩ := Tx.serve_error_iff.mp hs
    replace hr := Tx.raises_bind_pure.mp hr
    obtain ⟨row', hmem', hhash', hrows⟩ := AuthService.refresh_reuse hr
    obtain rfl := RefreshTokenService.eq_of_tokenHash hmem hmem' (hhash.trans hhash'.symm)
    rw [hnext, hd', if_pos (show Exn.handled .tokenReuse = true from rfl),
      Database.refreshTokens, hrows, Function.update_self]
    exact Burnt.of_burn hmem env.now

/-- **Presenting a used token ends its session**, to `refresh` as to
`logout`. -/
theorem Burns.of_used {row : RefreshToken} (hmem : row ∈ d.refreshTokens)
    (hhash : row.tokenHash = RefreshTokenCodec.hash P raw) (hused : ¬ row.Live)
    (hi : i.2 = .auth (.refresh raw) ∨ i.2 = .auth (.logout raw)) :
    Burns P d i row.sessionId := by
  obtain ⟨env, req⟩ := i
  refine ⟨raw, ⟨row, hmem, hhash, rfl⟩, ?_⟩
  rcases hi with rfl | rfl
  · obtain ⟨d', -, hr⟩ := AuthService.refresh_used env (s := ⟨d, d⟩) hmem hhash hused
    have hs : serve P env (.auth (.refresh raw)) d = (.error .tokenReuse, d') :=
      Tx.serve_error_iff.mpr ⟨_, Tx.raises_bind.mpr (Or.inl hr), rfl⟩
    exact Or.inr ⟨rfl, congrArg Prod.fst hs⟩
  · exact Or.inl rfl

/-- **An accepted token is used from then on.** -/
theorem Accepts.used (h : Accepts P d i sessionId) (hi : i.2 = .auth (.refresh raw)) :
    ∃ row ∈ ((service P).next d i).refreshTokens, row.sessionId = sessionId ∧
      row.tokenHash = RefreshTokenCodec.hash P raw ∧ row.consumedAt ≠ none := by
  obtain ⟨env, req⟩ := i
  obtain ⟨raw', rfl, ⟨row, hmem, hhash, rfl⟩, response, ha⟩ := h
  cases hi
  obtain ⟨d', hs⟩ : ∃ d', serve P env (.auth (.refresh raw)) d = (.ok response, d') :=
    ⟨_, Prod.ext ha rfl⟩
  have hnext : (service P).next d (env, .auth (.refresh raw)) = d' := congrArg Prod.snd hs
  obtain ⟨row', hmem', hhash', -, -, exp, -, hd'⟩ := refresh_ok hs
  obtain rfl := RefreshTokenService.eq_of_tokenHash hmem hmem' (hhash.trans hhash'.symm)
  refine ⟨row.consume env.now, ?_, rfl, hhash, Option.some_ne_none _⟩
  rw [hnext, Database.refreshTokens, hd', Schema.insert_self, Schema.replace_self]
  exact Table.mem_insert.mpr (Or.inl (Table.mem_replace.mpr (Or.inl ⟨rfl, row, hmem, rfl⟩)))

/-! ## Runs -/

/-- After a request that ends a session, no token of it is accepted. -/
theorem Burns.not_accepts {js : List (Env × Request)} {k : Env × Request}
    (h : Burns P d i sessionId) (hfresh : FreshSessions P ((service P).next d i) js) :
    ¬ Accepts P ((service P).run d (i :: js)) k sessionId := by
  intro hk
  obtain ⟨row, hrow, hlive⟩ := hk.live
  rw [Process.run_cons, h.burnt.run hfresh] at hrow
  exact h.burnt.2 row hrow hlive.2

/-- **The detection of theft is final.** Take any serial run `js` from the
empty database, a request `i`, and any requests `ls` after it.

* If `i` ends a session, all its tokens are revoked after `ls`; they are the
  tokens the session had directly after `i`, unchanged; and no next request
  accepts one of them.
* If `i` exchanged a token, and the same token is presented again somewhere
  in `ls`, then no next request accepts a token of its session. -/
theorem theft_detection_final (P : Platform) (sessionId : UUID) (js ls : List (Env × Request))
    (i k : Env × Request) (hfresh : FreshSessions P (Store.empty schema) (js ++ i :: ls)) :
    (Burns P ((service P).run (Store.empty schema) js) i sessionId →
      (∀ x ∈ ((service P).run (Store.empty schema) (js ++ i :: ls)).refreshTokens,
        x.sessionId = sessionId → x.revokedAt ≠ none) ∧
      sessionRows sessionId
          ((service P).run (Store.empty schema) (js ++ i :: ls)).refreshTokens
        = sessionRows sessionId
          ((service P).run (Store.empty schema) (js ++ [i])).refreshTokens ∧
      ¬ Accepts P ((service P).run (Store.empty schema) (js ++ i :: ls)) k sessionId) ∧
    ∀ raw, i.2 = .auth (.refresh raw) →
      Accepts P ((service P).run (Store.empty schema) js) i sessionId →
      ∀ ls₁ j ls₂, ls = ls₁ ++ j :: ls₂ →
        (j.2 = .auth (.refresh raw) ∨ j.2 = .auth (.logout raw)) →
        ¬ Accepts P ((service P).run (Store.empty schema) (js ++ i :: ls)) k sessionId := by
  obtain ⟨-, -, hls⟩ := ((service P).every_append _ _ js (i :: ls)).mp hfresh
  simp only [Process.run_append, Process.run_cons, Process.run_nil]
  refine ⟨fun hi => ?_, ?_⟩
  · have hrows := hi.burnt.run hls
    refine ⟨fun x hx hs => ?_, hrows, hi.not_accepts hls⟩
    have hx' := mem_sessionRows.mpr ⟨hx, hs⟩
    rw [hrows] at hx'
    exact hi.burnt.2 x hx'
  · rintro raw hraw hi ls₁ j ls₂ rfl hj
    obtain ⟨-, hj', hls₂⟩ := ((service P).every_append _ _ ls₁ (j :: ls₂)).mp hls
    -- the exchanged token is still there, and used, when it is presented again
    obtain ⟨row, hmem, rfl, hhash, hused⟩ := hi.used hraw
    obtain ⟨row', hmem', hev⟩ := Evolves.run P _ ls₁ hmem
    have hburns := Burns.of_used (i := j) hmem' (hev.tokenHash.trans hhash)
      (fun hlive => hused ((hev.consumedAt hused).symm.trans hlive.1)) hj
    rw [hev.sessionId] at hburns
    rw [Process.run_append]
    exact hburns.not_accepts hls₂

/-- A token is exchanged and presented again: its successor is not
accepted. -/
theorem theft_detection_final_reuse :
    ¬ Accepts (Sample.platform 2592000)
      ((service (Sample.platform 2592000)).run (Store.empty schema)
        ([(Sample.env 1 (Sample.second 0), .auth (.signup (Sample.signup "ada@example.org" none))),
          (Sample.env 2 (Sample.second 60), .auth (.refresh "refresh-1"))]
        ++ [(Sample.env 3 (Sample.second 120), .auth (.refresh "refresh-1"))]))
      (Sample.env 4 (Sample.second 180), .auth (.refresh "refresh-2")) 1001#128 :=
  ((theft_detection_final (Sample.platform 2592000) 1001#128
    [(Sample.env 1 (Sample.second 0), .auth (.signup (Sample.signup "ada@example.org" none))),
      (Sample.env 2 (Sample.second 60), .auth (.refresh "refresh-1"))] []
    (Sample.env 3 (Sample.second 120), .auth (.refresh "refresh-1"))
    (Sample.env 4 (Sample.second 180), .auth (.refresh "refresh-2")) (by decide +kernel)).1
    ⟨"refresh-1", by decide +kernel, Or.inr ⟨rfl, by decide +kernel⟩⟩).2.2
