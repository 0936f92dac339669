/-
  PagedTable.Pattern.Table.CaseFold — simple case folding outside of ASCII.

  The characters that fold to another one, in ascending order: how many characters lie between
  the previous one and this one, and how far its folding is away.  Distances are coded with the
  sign in the last bit.
-/

namespace PagedTable.Pattern.Table

/-- The simple case foldings of the characters from U+0080 on. -/
def caseFoldings : List String :=
  [ "GzCHqkCmaCmaCmaCmaCmaCmaCmaCmaCmaCmaCmaCmaCmaCmaCmaCmaCmaCmaCmaCmaCmaCmaCmbCmaCmaCmaCmaC"
  , "maCmaCmBhcbcbcbcbcbcbcbcbcbcbcbcbcbcbcbcbcbcbcbcbcbcbcbcdcbcbcccbcbcbcbcbcbcbcccbcbcbcbc"
  , "bcbcbcbcbcbcbcbcbcbcbcbcbcbcbcbcbcbcbJhacbcbcbUpbQeacbcbPwacbPuaPuaccGcaPoaPqacbPuaPybQg"
  , "aQcacdQgaQkbQmacbcbcbQuacbQuccbQuacbQsaQsacbcbQwacdcheacbeacbeacbcbcbcbcbcbcbcbcccbcbcbc"
  , "bcbcbcbcbcceacbcbHlaEhacbcbcbcbcbcbcbcbcbcbcbcbcbcbcbcbcbcbcbcbJzbcbcbcbcbcbcbcbcbchBFYk"
  , "acbMnaBFYeccbOzaFiaFmacbcbcbcbcJmIyBqcbcdciIygCybCwaCwaCwbEybEwaEwbCmaCmaCmaCmaCmaCmaCma"
  , "CmaCmaCmaCmaCmaCmaCmaCmaCmaCmbCmaCmaCmaCmaCmaCmaCmaCmaCmwcmqaChaBxdBdaBrbcbcbcbcbcbcbcbc"
  , "bcbcbcbcbEdaDrcEpaExbcbnaccJzaJzaJzaGeaGeaGeaGeaGeaGeaGeaGeaGeaGeaGeaGeaGeaGeaGeaGeaCmaC"
  , "maCmaCmaCmaCmaCmaCmaCmaCmaCmaCmaCmaCmaCmaCmaCmaCmaCmaCmaCmaCmaCmaCmaCmaCmaCmaCmaCmaCmaCm"
  , "aCmBwcbcbcbcbcbcbcbcbcbcbcbcbcbcbcbcbcjcbcbcbcbcbcbcbcbcbcbcbcbcbcbcbcbcbcbcbcbcbcbcbcbc"
  , "bcbcbBeacbcbcbcbcbcbcccbcbcbcbcbcbcbcbcbcbcbcbcbcbcbcbcbcbcbcbcbcbcbcbcbcbcbcbcbcbcbcbcb"
  , "cbcbcbcbcbcbcbcbcbcbcbcbcbcbccDsaDsaDsaDsaDsaDsaDsaDsaDsaDsaDsaDsaDsaDsaDsaDsaDsaDsaDsaD"
  , "saDsaDsaDsaDsaDsaDsaDsaDsaDsaDsaDsaDsaDsaDsaDsaDsaDsaDsEHdVMuaVMuaVMuaVMuaVMuaVMuaVMuaVM"
  , "uaVMuaVMuaVMuaVMuaVMuaVMuaVMuaVMuaVMuaVMuaVMuaVMuaVMuaVMuaVMuaVMuaVMuaVMuaVMuaVMuaVMuaVM"
  , "uaVMuaVMuaVMuaVMuaVMuaVMuaVMuaVMubVMufVMuBFepapapapapapDFuSKpaSKnaSJvaSJraSJraSJtaSJfaSH"
  , "jaEAIwacgIXjaIXjaIXjaIXjaIXjaIXjaIXjaIXjaIXjaIXjaIXjaIXjaIXjaIXjaIXjaIXjaIXjaIXjaIXjaIXj"
  , "aIXjaIXjaIXjaIXjaIXjaIXjaIXjaIXjaIXjaIXjaIXjaIXjaIXjaIXjaIXjaIXjaIXjaIXjaIXjaIXjaIXjaIXj"
  , "aIXjcIXjaIXjaIXjMicbcbcbcbcbcbcbcbcbcbcbcbcbcbcbcbcbcbcbcbcbcbcbcbcbcbcbcbcbcbcbcbcbcbcb"
  , "cbcbcbcbcbcbcbcbcbcbcbcbcbcbcbcbcbcbcbcbcbcbcbcbcbcbcbcbcbcbcbcbcbcbcbcbcbcbcbcgElcWNtbc"
  , "bcbcbcbcbcbcbcbcbcbcbcbcbcbcbcbcbcbcbcbcbcbcbcbcbcbcbcbcbcbcbcbcbcbcbcbcbcbcbcbcbcbcbcbc"
  , "bcbcbcjpapapapapapapapipapapapapapkpapapapapapapapipapapapapapapapipapapapapaplpbpbpbpip"
  , "apapapapapapapypapapapapapapapipapapapapapapapipapapapapapapapipapaFraFrarbVFtjGpaGpaGpa"
  , "GpargVKnepapaHraHrhVJhepapaIpaIpanlJvaJvaJraJrarLlWGfdYUvaYLngCeBtBgaBgaBgaBgaBgaBgaBgaB"
  , "gaBgaBgaBgaBgaBgaBgaBgaBgtcBFmCaaCaaCaaCaaCaaCaaCaaCaaCaaCaaCaaCaaCaaCaaCaaCaaCaaCaaCaaC"
  , "aaCaaCaaCaaCaaCaaCaCSuDsaDsaDsaDsaDsaDsaDsaDsaDsaDsaDsaDsaDsaDsaDsaDsaDsaDsaDsaDsaDsaDsa"
  , "DsaDsaDsaDsaDsaDsaDsaDsaDsaDsaDsaDsaDsaDsaDsaDsaDsaDsaDsaDsaDsaDsaDsaDsaDsaDsBwcbBFUjaLH"
  , "jaBFTdccbcbcbBFXfaBFUvaBFXlaBFXjbccciBFZxaBFZxacbcbcbcbcbcbcbcbcbcbcbcbcbcbcbcbcbcbcbcbc"
  , "bcbcbcbcbcbcbcbcbcbcbcbcbcbcbcbcbcbcbcbcbcbcbcbcbcbcbcbcbcicbcecBTYjcbcbcbcbcbcbcbcbcbcb"
  , "cbcbcbcbcbcbcbcbcbcbcbcbctcbcbcbcbcbcbcbcbcbcbcbcbcbcFfcbcbcbcbcbcbcdcbcbcbcbcbcbcbcbcbc"
  , "bcbcbcbcbcbcbcbcbcbcbcbcbcbcbcbcbcbcbcbcbckcbcbEANvacbcbcbcbcecbEVChccbcdcbcbcbcbcbcbcbc"
  , "bcbcbEVElaEVFhaEVEzaEVEfaEVElbEVApaEVClaEVAvaCTkacbcbcbcbcbcbcbcbDraEVEjaEARvacbcbEVHdac"
  , "dcfcbcbcbEVXxycBIgEKZnaEKZnaEKZnaEKZnaEKZnaEKZnaEKZnaEKZnaEKZnaEKZnaEKZnaEKZnaEKZnaEKZna"
  , "EKZnaEKZnaEKZnaEKZnaEKZnaEKZnaEKZnaEKZnaEKZnaEKZnaEKZnaEKZnaEKZnaEKZnaEKZnaEKZnaEKZnaEKZ"
  , "naEKZnaEKZnaEKZnaEKZnaEKZnaEKZnaEKZnaEKZnaEKZnaEKZnaEKZnaEKZnaEKZnaEKZnaEKZnaEKZnaEKZnaE"
  , "KZnaEKZnaEKZnaEKZnaEKZnaEKZnaEKZnaEKZnaEKZnaEKZnaEKZnaEKZnaEKZnaEKZnaEKZnaEKZnaEKZnaEKZn"
  , "aEKZnaEKZnaEKZnaEKZnaEKZnaEKZnaEKZnaEKZnaEKZnaEKZnaEKZnaEKZnaEKZnBEAncBOlCmaCmaCmaCmaCma"
  , "CmaCmaCmaCmaCmaCmaCmaCmaCmaCmaCmaCmaCmaCmaCmaCmaCmaCmaCmaCmaCmBUzDcaDcaDcaDcaDcaDcaDcaDc"
  , "aDcaDcaDcaDcaDcaDcaDcaDcaDcaDcaDcaDcaDcaDcaDcaDcaDcaDcaDcaDcaDcaDcaDcaDcaDcaDcaDcaDcaDca"
  , "DcaDcaDcFgDcaDcaDcaDcaDcaDcaDcaDcaDcaDcaDcaDcaDcaDcaDcaDcaDcaDcaDcaDcaDcaDcaDcaDcaDcaDca"
  , "DcaDcaDcaDcaDcaDcaDcaDcaDcaDcGaDaaDaaDaaDaaDaaDaaDaaDaaDaaDaaDabDaaDaaDaaDaaDaaDaaDaaDaa"
  , "DaaDaaDaaDaaDaaDaaDabDaaDaaDaaDaaDaaDaaDabDaaDaCQcEyaEyaEyaEyaEyaEyaEyaEyaEyaEyaEyaEyaEy"
  , "aEyaEyaEyaEyaEyaEyaEyaEyaEyaEyaEyaEyaEyaEyaEyaEyaEyaEyaEyaEyaEyaEyaEyaEyaEyaEyaEyaEyaEya"
  , "EyaEyaEyaEyaEyaEyaEyaEyaEyGbCmaCmaCmaCmaCmaCmaCmaCmaCmaCmaCmaCmaCmaCmaCmaCmaCmaCmaCmaCma"
  , "CmaCmEGoCmaCmaCmaCmaCmaCmaCmaCmaCmaCmaCmaCmaCmaCmaCmaCmaCmaCmaCmaCmaCmaCmaCmaCmaCmaCmaCm"
  , "aCmaCmaCmaCmaCmBGJwCmaCmaCmaCmaCmaCmaCmaCmaCmaCmaCmaCmaCmaCmaCmaCmaCmaCmaCmaCmaCmaCmaCma"
  , "CmaCmaCmaCmaCmaCmaCmaCmaCmBULkCqaCqaCqaCqaCqaCqaCqaCqaCqaCqaCqaCqaCqaCqaCqaCqaCqaCqaCqaC"
  , "qaCqaCqaCqaCqaCqaCqaCqaCqaCqaCqaCqaCqaCqaCq" ]

end PagedTable.Pattern.Table
