import VersionedStore.Unicode.Property

/-!
# The current version of the standard

Patterns keep to version 16.0 of the Unicode standard, while texts are shown and written in small
letters by version 17.0.  The sets of this module are those of version 16.0 with the characters
that the later version added.
-/

set_option autoImplicit false

namespace VersionedStore.Unicode

/-- Letters, marks that count as letters, and letter numbers. -/
def currentAlphabetic : CharSet :=
  alphabetic.union (.ofText
    ["88f c5c cdc a7ce-a7cf a7d2 a7d4 a7f1 10940-10959 10ec5-10ec7 10efa-10efb 11b60-11b67",
     "11db0-11ddb 16ea0-16eb8 16ebb-16ed3 16ff2-16ff6 187f8-187ff 18d09-18d1e 18d80-18df2",
     "1e6c0-1e6de 1e6e0-1e6f5 1e6fe-1e6ff 2b73a-2b73f 2cea2-2cead 323b0-33479"])

/-- Numbers. -/
def currentNumber : CharSet :=
  number.union (.ofText ["11de0-11de9 16ff4-16ff6"])

/-- Characters that have letter case; one letter has lost it. -/
def currentCased : CharSet :=
  (cased.difference (.ofText ["295"])).union (.ofText
    ["a7ce-a7cf a7d2 a7d4 a7f1 16ea0-16eb8 16ebb-16ed3"])

/-- Characters that are passed over when the cased neighbours of a letter are looked for. -/
def currentCaseIgnorable : CharSet :=
  caseIgnorable.union (.ofText
    ["1acf-1add 1ae0-1aeb a7f1 10ec5 10efa-10efb 11b60 11b62-11b64 11b66 11dd9 16ff2-16ff3",
     "1e6e3 1e6e6 1e6ee-1e6ef 1e6f5 1e6ff"])

/-- Characters that show by themselves: neither unassigned nor private, no control, format or
separator, none that is ignored by default, and no mark that attaches to the character before,
except for the two voicing marks of half width. -/
def currentShown : CharSet :=
  (assigned.difference
    (.unionAll
      [control, format, privateUse, separator, graphemeExtend, defaultIgnorable])).union (.ofText
    ["88f c5c cdc 20c1 2b96 a7ce-a7cf a7d2 a7d4 a7f1 fbc3-fbd2 fd90-fd91 fdc8-fdce",
     "ff9e-ff9f 10940-10959 10ec5-10ec7 10ed0-10ed8 11b61 11b65 11b67 11db0-11ddb 11de0-11de9",
     "16ea0-16eb8 16ebb-16ed3 16ff2-16ff6 187f8-187ff 18d09-18d1e 18d80-18df2 1ccfa-1ccfc",
     "1ceba-1ced0 1cee0-1cef0 1e6c0-1e6de 1e6e0-1e6e2 1e6e4-1e6e5 1e6e7-1e6ed 1e6f0-1e6f4",
     "1e6fe-1e6ff 1f6d8 1f777-1f77a 1f8d0-1f8d8 1fa54-1fa57 1fa8a 1fa8e 1fac8 1facd 1faea",
     "1faef 1fbfa 2b73a-2b73f 2cea2-2cead 323b0-33479"])

end VersionedStore.Unicode
