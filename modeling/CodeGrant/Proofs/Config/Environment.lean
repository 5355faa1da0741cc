import CodeGrant.Proofs.Cli.Variables
import CodeGrant.Proofs.Text.Decimal

/-! # Two readers of one environment

A program that embeds a server takes its address and its issuer from the environment
(`Config.ofEnvironment`), and so does the command line where it has no arguments
(`Cli.readSettings`).  Hosts and issuers mean the same to both.  Ports do not: the command line
reads any integer first and then asks whether it is a port, so that a minus sign in front of zeros
writes port zero, while the library admits no minus sign (`Cli.readPortValue_eq_ok_iff_or`).

Otherwise an environment is refused by both or by none, and makes the same configuration for both
(`Cli.told_as_read_unless_negative_zero`). -/

namespace CodeGrant

open Decimal (Writes IsNegativeZero)

variable {env : Environment} {text : String} {port : UInt16} {config : Config}

/-! ## Ports -/

theorem Config.readPort_eq_ok_iff : Config.readPort text = .ok port ↔
    ∃ k, Writes text.toList k ∧ 0 ≤ k ∧ k ≤ 65535 ∧ text.toList.head? ≠ some '-' ∧
      UInt16.ofNat k.toNat = port := by
  rw [Config.readPort]
  constructor
  · intro h
    cases hread : Decimal.read 0 65535 text with
    | error fault => rw [hread] at h; cases h
    | ok k =>
      rw [hread] at h
      obtain ⟨hwrites, hleast, hgreatest, hsign⟩ :=
        (Decimal.read_eq_ok_iff (by decide) (by decide)).mp hread
      exact ⟨k, hwrites, hleast, hgreatest, fun hhead => absurd (hsign hhead) (by decide),
        Except.ok.inj h⟩
  · rintro ⟨k, hwrites, hleast, hgreatest, hsign, rfl⟩
    have hread : Decimal.read 0 65535 text = .ok k :=
      (Decimal.read_eq_ok_iff (by decide) (by decide)).mpr
        ⟨hwrites, hleast, hgreatest, fun hhead => absurd hhead hsign⟩
    rw [hread]
    rfl

namespace Cli

theorem readPortValue_eq_ok_iff : readPortValue text = .ok port ↔
    ∃ k, Writes text.toList k ∧ 0 ≤ k ∧ k ≤ 65535 ∧ UInt16.ofNat k.toNat = port := by
  rw [readPortValue]
  constructor
  · intro h
    split at h
    · cases h
    · next k hread =>
      split at h
      · next hrange =>
        obtain ⟨hwrites, -⟩ := (Decimal.read_eq_ok_iff (by decide) (by decide)).mp hread
        exact ⟨k, hwrites, hrange.1, hrange.2, Except.ok.inj h⟩
      · cases h
  · rintro ⟨k, hwrites, hleast, hgreatest, rfl⟩
    have hmin : Int64.minValue.toInt < 0 := by decide
    have hmax : 65535 ≤ Int64.maxValue.toInt := by decide
    rw [(Decimal.read_eq_ok_iff (by omega) (by omega)).mpr
      ⟨hwrites, by omega, by omega, fun _ => hmin⟩]
    exact if_pos ⟨hleast, hgreatest⟩

/-- **The command line takes the ports that the library takes, and zero behind a minus sign.** -/
theorem readPortValue_eq_ok_iff_or : readPortValue text = .ok port ↔
    Config.readPort text = .ok port ∨ (IsNegativeZero text ∧ port = 0) := by
  rw [readPortValue_eq_ok_iff, Config.readPort_eq_ok_iff, Decimal.isNegativeZero_iff]
  constructor
  · rintro ⟨k, hwrites, hleast, hgreatest, rfl⟩
    by_cases hsign : text.toList.head? = some '-'
    · have hnonpos := Decimal.nonpos_of_writes hwrites hsign
      obtain rfl : k = 0 := by omega
      exact .inr ⟨⟨hwrites, hsign⟩, rfl⟩
    · exact .inl ⟨k, hwrites, hleast, hgreatest, hsign, rfl⟩
  · rintro (⟨k, hwrites, hleast, hgreatest, -, rfl⟩ | ⟨⟨hzero, -⟩, rfl⟩)
    · exact ⟨k, hwrites, hleast, hgreatest, rfl⟩
    · exact ⟨0, hzero, by decide, by decide, rfl⟩

end Cli

/-! ## Variables -/

/-- Whether the port is told by a minus sign with zeros behind it. -/
def Environment.HasNegativePort (env : Environment) : Prop :=
  ∃ text, env.value? "PORT" = some text ∧ IsNegativeZero text

namespace Config

theorem environmentHost_eq_ok_iff {host : Net.IpAddress} : environmentHost env = .ok host ↔
    (env.value? "HOST" = none ∧ .v4 .unspecified = host) ∨
      ∃ text, env.value? "HOST" = some text ∧ Net.IpAddress.ofText? text = some host := by
  rw [environmentHost]
  cases env.value? "HOST" with
  | none => simp
  | some text => cases hread : Net.IpAddress.ofText? text <;> simp [hread]

theorem environmentPort_eq_ok_iff : environmentPort env = .ok port ↔
    (env.value? "PORT" = none ∧ defaultPort = port) ∨
      ∃ text, env.value? "PORT" = some text ∧ readPort text = .ok port := by
  rw [environmentPort]
  cases env.value? "PORT" with
  | none => simp
  | some text => cases hread : readPort text <;> simp [hread]

theorem ofEnvironment_eq_ok_iff : ofEnvironment env = .ok config ↔ ∃ host port,
    environmentHost env = .ok host ∧ environmentPort env = .ok port ∧
      new (.of port host) (env.value? "OAUTH_ISSUER") = config := by
  rw [ofEnvironment]
  cases environmentHost env with
  | error e => simp [bind, Except.bind]
  | ok host => cases environmentPort env <;> simp [bind, Except.bind]

theorem exists_error_of_hasNegativePort (h : env.HasNegativePort) :
    ∃ error, ofEnvironment env = .error error := by
  obtain ⟨text, hvalue, hnegative⟩ := h
  have hport : environmentPort env = .error (.port .invalidDigit) := by
    rw [environmentPort, hvalue]
    simp only [readPort, Decimal.read_of_isNegativeZero hnegative, Except.map]
  rw [ofEnvironment, hport]
  cases environmentHost env with
  | error error => exact ⟨error, rfl⟩
  | ok host => exact ⟨_, rfl⟩

end Config

namespace Cli

open Config (environmentHost environmentPort ofEnvironment)

theorem told_host_eq_ok_iff {host : Net.IpAddress} :
    told env .host readHostValue (.v4 .unspecified) = .ok host ↔
      environmentHost env = .ok host := by
  rw [told_eq_ok_iff rfl, Config.environmentHost_eq_ok_iff]
  simp only [readHostValue_eq_ok_iff]

theorem told_port_eq_ok_iff : told env .port readPortValue Config.defaultPort = .ok port ↔
    environmentPort env = .ok port ∨ (env.HasNegativePort ∧ port = 0) := by
  rw [told_eq_ok_iff rfl, Config.environmentPort_eq_ok_iff]
  simp only [readPortValue_eq_ok_iff_or]
  constructor
  · rintro (hunset | ⟨text, hvalue, hread | ⟨hnegative, hport⟩⟩)
    · exact .inl (.inl hunset)
    · exact .inl (.inr ⟨text, hvalue, hread⟩)
    · exact .inr ⟨⟨text, hvalue, hnegative⟩, hport⟩
  · rintro ((hunset | ⟨text, hvalue, hread⟩) | ⟨⟨text, hvalue, hnegative⟩, hport⟩)
    · exact .inl hunset
    · exact .inr ⟨text, hvalue, .inl hread⟩
    · exact .inr ⟨text, hvalue, .inr ⟨hnegative, hport⟩⟩

/-! ## Configurations -/

theorem map_config_eq_ok_iff : (readSettings [] env).map Settings.config = .ok config ↔
    ∃ host port, environmentHost env = .ok host ∧
      (environmentPort env = .ok port ∨ (env.HasNegativePort ∧ port = 0)) ∧
      .new (.of port host) (env.value? "OAUTH_ISSUER") = config := by
  simp only [← told_host_eq_ok_iff, ← told_port_eq_ok_iff, readSettings_nil]
  cases told env .host readHostValue (.v4 .unspecified) with
  | error stop => simp [bind, Except.bind, Except.map]
  | ok host =>
    cases told env .port readPortValue Config.defaultPort <;>
      simp [bind, Except.bind, Except.map, Settings.config]

/-- **The command line makes the configurations that the library makes**, and one with port zero of
a port that is a minus sign with zeros behind it. -/
theorem map_config_eq_ok_iff_or : (readSettings [] env).map Settings.config = .ok config ↔
    ofEnvironment env = .ok config ∨ (env.HasNegativePort ∧
      ∃ host, environmentHost env = .ok host ∧
        .new (.of 0 host) (env.value? "OAUTH_ISSUER") = config) := by
  rw [map_config_eq_ok_iff, Config.ofEnvironment_eq_ok_iff]
  constructor
  · rintro ⟨host, port, hhost, hport | ⟨hnegative, rfl⟩, hconfig⟩
    · exact .inl ⟨host, port, hhost, hport, hconfig⟩
    · exact .inr ⟨hnegative, host, hhost, hconfig⟩
  · rintro (⟨host, port, hhost, hport, hconfig⟩ | ⟨hnegative, host, hhost, hconfig⟩)
    · exact ⟨host, port, hhost, .inl hport, hconfig⟩
    · exact ⟨host, 0, hhost, .inr ⟨hnegative, rfl⟩, hconfig⟩

/-- What is refused is not taken. -/
theorem exists_error_iff {ε α : Type} {result : Except ε α} :
    (∃ error, result = .error error) ↔ ∀ a, result ≠ .ok a := by
  cases result <;> simp

/-- **The command line is told what the library reads, unless the port is a negative zero.**  A run
without arguments ends with the code of a problem exactly if the environment is refused.  If the
port is no negative zero, that is so exactly if the library refuses it too.  Where both take the
environment, they listen at the same address and have the same issuer.  A port that is a minus sign
with zeros behind it is refused by the library, and for the command line it is port zero. -/
theorem told_as_read_unless_negative_zero (env : Environment) :
    let told := (readSettings [] env).map Settings.config
    let read := ofEnvironment env
    ((∃ errors, run [] env none = .exit 2 "" errors) ↔ ∃ stop, told = .error stop) ∧
    (¬ env.HasNegativePort → ((∃ stop, told = .error stop) ↔ ∃ error, read = .error error)) ∧
    (∀ config other, told = .ok config → read = .ok other →
      config.address = other.address ∧ config.issuer = other.issuer) ∧
    (env.HasNegativePort → (∃ error, read = .error error) ∧
      ∀ config, told = .ok config ↔ ∃ host, environmentHost env = .ok host ∧
        .new (.of 0 host) (env.value? "OAUTH_ISSUER") = config) := by
  intro told read
  have htold (config : Config) : told = .ok config ↔ read = .ok config ∨ (env.HasNegativePort ∧
      ∃ host, environmentHost env = .ok host ∧
        .new (.of 0 host) (env.value? "OAUTH_ISSUER") = config) := map_config_eq_ok_iff_or
  have hrefused (hnegative : env.HasNegativePort) (config : Config) : read ≠ .ok config :=
    exists_error_iff.mp (Config.exists_error_of_hasNegativePort hnegative) config
  refine ⟨?_, fun hpositive => ?_, fun config other hconfig hother => ?_, fun hnegative => ?_⟩
  · rw [run_nil_eq_exit_iff]
    simp only [told]
    cases readSettings [] env <;> simp [Except.map]
  · simp only [exists_error_iff, ne_eq, htold, hpositive, false_and, or_false]
  · rcases (htold config).mp hconfig with hread | ⟨hnegative, -⟩
    · obtain rfl := Except.ok.inj (hread.symm.trans hother)
      exact ⟨rfl, rfl⟩
    · exact absurd hother (hrefused hnegative other)
  · refine ⟨Config.exists_error_of_hasNegativePort hnegative, fun config => ?_⟩
    rw [htold, or_iff_right (hrefused hnegative config), and_iff_right hnegative]

/-- A port that is too large is refused by both. -/
theorem told_as_read_of_large_port :
    let env : Environment := [("HOST", "::1"), ("PORT", "65536")]
    ¬ env.HasNegativePort ∧ (∃ error, ofEnvironment env = .error error) ∧
      ∃ stop, (readSettings [] env).map Settings.config = .error stop := by
  intro env
  have hpositive : ¬ env.HasNegativePort := by
    rintro ⟨text, hvalue, zeros, htext, -⟩
    have hlarge : env.value? "PORT" = some "65536" := rfl
    obtain rfl := Option.some.inj (hlarge.symm.trans hvalue)
    have hsign : "65536".toList.head? = some '-' := congrArg List.head? htext
    exact absurd hsign (by decide)
  have hread : ∃ error, ofEnvironment env = .error error := ⟨_, rfl⟩
  obtain ⟨-, hsame, -⟩ := told_as_read_unless_negative_zero env
  exact ⟨hpositive, hread, (hsame hpositive).mpr hread⟩

/-- **The readers differ.**  The command line takes the port -0, which the library refuses. -/
theorem told_not_as_read_of_negative_zero :
    let env : Environment := [("PORT", "-0")]
    (readSettings [] env).map Settings.config = .ok (.new (.v4 .unspecified 0) none) ∧
      ofEnvironment env = .error (.port .invalidDigit) ∧
      ¬ ((∃ stop, (readSettings [] env).map Settings.config = .error stop) ↔
        ∃ error, ofEnvironment env = .error error) := by
  intro env
  have htold : (readSettings [] env).map Settings.config
      = .ok (.new (.v4 .unspecified 0) none) := rfl
  have hread : ofEnvironment env = .error (.port .invalidDigit) := rfl
  refine ⟨htold, hread, fun hsame => ?_⟩
  obtain ⟨stop, hstop⟩ := hsame.mpr ⟨_, hread⟩
  rw [htold] at hstop
  cases hstop

end Cli

end CodeGrant
