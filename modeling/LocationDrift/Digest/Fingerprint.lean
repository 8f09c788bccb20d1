import LocationDrift.Digest.Md5

/-!
# Code fingerprints

The fingerprint of a piece of code is the MD5 digest of its UTF-8 bytes after every ASCII blank
(space, tab, line feed, vertical tab, form feed, carriage return) is removed, so two pieces of code
that differ only in such blanks have one fingerprint. Code with a surrogate has none: the failure
reports positions in the code with its blanks removed.
-/

namespace LocationDrift

/-- The code with its ASCII blanks removed. -/
def Text.withoutBlanks (code : Text) : Text := code.filter fun c => !Text.isAsciiBlank c

/-- The fingerprint of a piece of code, as 32 hexadecimal digits. -/
def fingerprint (code : Text) : Except Unencodable Text :=
  Md5.hexDigest <$> Utf8.encode? code.withoutBlanks

end LocationDrift
