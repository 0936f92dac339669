/-
  PagedTable.Pattern.Table.Category — which characters have which general category.

  Every category comes with the names it goes by and the ranges of its characters, coded as
  `PagedTable.Pattern.Table.Code` reads them.  The unassigned characters are those of no category
  listed; the broader classes are unions of categories.
-/

namespace PagedTable.Pattern.Table

/-- The categories with characters, each under its names. -/
def categories : List (List String × List String) :=
  [ (["cc", "control", "cntrl"], ["aBfDrBg"])
  , (["cf", "format"],
    ["GraCAkfwaHkaBxaOubDcaFTjaDAqeBaeBxebjDGHjaJpcGIzapaNKkpBZQudHWxhBTKZmaBeDr"])
  , (["co", "privateuse"], ["DGVoJMdCAHXoDSYncDSYn"])
  , (["ll", "lowercaseletter"],
    [ "DtzCgaBpxbhbabababababababababababababababababababababababababababbbabababababababbbabab"
    , "ababababababababababababababababababababacababccabacadbeacadccacababacabbbacadabacbccgac"
    , "acababababababababbbababababababababbcabadababababababababababababababababababababababab"
    , "ababababababgcacbbaeababababCqbBaHlabadadcsaBbBibbdcbabababababababababababebacacbBzBvba"
    , "babababababababababababababababajababababababababababababababababababababababababababaca"
    , "babababababbbabababababababababababababababababababababababababababababababababababababa"
    , "babababababababababaBwBoEHbBqccBDgfDFuibaEnBrClmbBhDyabababababababababababababababababa"
    , "babababababababababababababababababababababababababababababababababababababababababababa"
    , "bababababababababababababibababababababababababababababababababababababababababababababa"
    , "babababababababababababababababababiifkhihifkhihinchihihiebbgadcbbidcbihkcbbKoadbdaBbaea"
    , "eacbideaCbaEBbBvbadbbababaeabbbffabababababababababababababababababababababababababababa"
    , "babababababababababababababababababababababbhabaeamBlbafaBTWdabababababababababababababa"
    , "bababababababababatabababababababababababababaFfababababababcbababababababababababababab"
    , "ababababababababababababababababababhbabacababababaeabacabcbabababababababababafafababab"
    , "ababababaeabacadabababababaBaadaBFpBqfihDbBEAigmeBOzzBVhBnFgBjFzkbobgbbCRbByEvvEGoBfBGJw"
    , "BfBMMkzBagbrBazBadbabgbkBazBazBazBazBazBazBazBazBaBbBcybfBaybfBaybfBaybfBaybfbaCSyjbtgfD"
    , "UdBh" ])
  , (["lm", "modifierletter"],
    [ "BAmreloehabaFdafaSkaIwaGibKjbeaBfajadaGeaGlaBVoaExaVtaCPmaEdaXnaRwfGsCknaBiBkBAnanaqmEMx"
    , "bJhaHjaSbaBrefaDtbDpcBQBuaBWcfKkaEkaBcbEriDcaxaEbcdbSbawaFhaEeavbDzdjaBFViaBtbCZofbBpbiC"
    , "CxaBgaBJNsdTocBobVemCmbbaYGqdbgbbSGnCjHtgBKfaBRba" ])
  , (["lo", "otherletter"],
    [ "GoapaJwaedIaaBFvBaedBtBfbjBjbbDubaybkccaqabBdBdDklayBgvvBqyhkfxbfrBoChCbdasahjqoehcbcvbg"
    , "badddaqanbbcobkaifebcvbgbbbbbbBfdbatcqibcbvbgbbbedasapbxalhcbcvbgbbbedaBebbcparabfdcbddb"
    , "babbdbdcdlwaCahbcbwbpdaBaccacbBeaehbcbwbjbedaBfbbbpbribcbBocaqafcicyffrdxbibacgCgBvbbmfC"
    , "hbbabebxbabjbbjacexdBgaClhbBjBbeElBquaqfeddadbhcemmaEjMqbdcgbabdcBobdcBgbdcgbabdcobCebdc"
    , "CoBlpEjXvcqbzfCwghhrnsorombcpBzBoaCpBibCahecBhbafCrkBeBxBdcelBrezCcwjCaGuBurhCcBdnbkBrBa"
    , "BjBpckBdEjdbfbbdaBPqdENvCdywjgbgbgbgbgbgbgbgVfaCbaeDhiabDleafBqbDprBfBwpTsJTnCmBFCebBRyC"
    , "pBniKhepkbCoaBxCrGnaDzadgbcbdbwBdBzoBxCkfdabblBbkwzBchBuBtecikebBoxcbhupbfdadBxbadbcecab"
    , "aybdkhaofcfcfjgbgFpBiBdQNrmweBwMNcObcEbCpabjbmbebabbbbbEdBhNysClcCbBolEmebFeEbjbBscBedfc"
    , "fcfccBjlbzbsbbbocnBiEsOzBcdBwBvBfntbhgBlkBdcBjehEyCzDuBniBzDoBzmLyjvkhFwfcabBrbbdacwkwjB"
    , "eCnsbbkvkzCsCdgbCmapdbcbBcBqBcdBcBjhbBbBbCbkvksnrEgCuHbBjBmdbaLsBpgbqcChBckaivBqrBuuBbwm"
    , "CaCfbcanBsBgyBaBjBdacaiBidamBvodvabaBjrbytbClgbabdbobjhBuBmhcbcvbgbbbedasameBejbacabBlba"
    , "zabaBsCasducBeBvubbaHcBuBpdBkBvuaChBqnaCtBaBlgHdBrIdhcachbbbxpabaDqhcBmqabaBcakBnhavalBt"
    , "tasCuHrBgBfibBkraBxBdEigbbbBlvazfbbbBfoaMpspabmbBhEuaDbBJlIwHnDXkDspBPfrfzFXqfWkKDdBdCPu"
    , "VwhBerDarBdsBvBzufsQtBnPpCwfaGtJBziBVpBpjNGhLepaBdccaodiPfDKuEcfmdihjNBcaThBsBhaMjBdsBrS"
    , "qBaIvBdcaTbgbdbbbobHoBZndbBabbbacabjbdbabagaeabababcbbbacabababababbbacdbgbdbdbabjbqfcbe"
    , "bqGOaCLFbBgGDtgIncINpoLBkpXxDQwUvCFyHHyfGFf" ])
  , (["lt", "titlecaseletter"], ["RlacacaBmaLFhhihihmapaBva"])
  , (["lu", "uppercaseletter"],
    [ "CnzDxwbgBhabababababababababababababababababababababababababababacabababababababacababab"
    , "ababababababababababababababababababababbbabadbbabbbccdbbbcdbbbbababbbacabbbcbabbdahacac"
    , "acabababababababacababababababababacacabcbababababababababababababababababababababababab"
    , "abababababahbbbcabdbabababaLdabadaiagabcbabbbqbiBjaccdabababababababababababafacabbcByBw"
    , "ababababababababababababababababajababababababababababababababababababababababababababab"
    , "bbabababababacababababababababababababababababababababababababababababababababababababab"
    , "ababababababababababacBlEHdBlbafaBBuDhDGlagBqccMiabababababababababababababababababababa"
    , "babababababababababababababababababababababababababababababababababababababababababababa"
    , "bababababababababababajababababababababababababababababababababababababababababababababa"
    , "babababababababababababababababajhifkhihiflabababaihCudmdmdmeldKcaeadccccadegabababdcdkb"
    , "faCjaDZgBvBwabccabababdbacaicbababababababababababababababababababababababababababababab"
    , "abababababababababababababababababababaiabaeaBTYjabababababababababababababababababababa"
    , "bababatabababababababababababababaFfababababababadababababababababababababababababababab"
    , "abababababababababababakababbbabababaeabacabadababababababababababebebabababababababdbab"
    , "bdafabababayaBHAhzBUzBnFgBjGakbobgbbCQcByGbvEGoBfBGJwBfBMMqzBazBazBaabbcacbcdbhBazBabbdc"
    , "hbgBbbbdbebadgBbzBazBazBazBazBazBeyBhyBhyBhyBhyBhaGNlBh" ])
  , (["mc", "spacingmark"],
    [ "DKtaCdaccidbbBybCgcgbcbkaBraCgcCoaCgciabbCbbCgabagbcbkaDybbbdcbckaBpcCjdCjbCgabecbbbjbBc"
    , "aobCgcfcbckaBqbCxcghsbMsbClaGpbeagacbzbkccgvbcfcakcCLsaBeaEzahhbbNidccebbfIqbCgabajabbif"
    , "FpaBwafabebbCjaBeaebcaCiaccbadbBwhibGpavaHHebBTLbbcaDkbBypFmbBvaBwbebccEgbcbyaBtabaEfacb"
    , "faJdbbbbbbaBLXjabaExaBtcebElaybChaBwcjbnaDpcdbbaGocBfbCgbbdcbccjakbDgchacabdbbbaDxcibdaE"
    , "ccgabdcaJdcgdcaEjcibbaEfabbgaDzabbeaKbcjaJnfbbeacabaFmcideaDgaBdbCkaPraoaEcahacaIfeebbaN"
    , "mbmaBwbibbaYYycFJgCcEabBKXnbgf" ])
  , (["me", "enclosingmark"], ["BSqbIKqaCIgdbcBYOxc"])
  , (["mn", "nonspacingmark"],
    [ "BDoEhKpeKfBsbabbbbbaCukBwuqaDxgcfcbbdBjaBeBaDnkCgijaydbibcbeBrcChiBqxbBfCdabaeheadgkbBda"
    , "CgaediaubBaacbCfaebebccdaBebdalbCfaeebbeaubwfbaCgacabdiahblbBeaCjamaByadaCdabcfcbdhblbBd"
    , "aCgacagafbubBcbCfbediaubBdaCuahcbaDmacgmhDuacilgCvbBbababaCdnbebbfkbBjjaDydbfbbcbzbecqdn"
    , "acbgapaBBbcBKkcBdbBebBebCmbbgiackjaBtcbaEnbBiaEocebjagcIlbcaCgabgbabachgjcaBwnbpBxdBwabe"
    , "bafaBoimbBgdcbbcCeabbdabcCghcbFwcbmbgeagadbHqClBBsmeadlEOccFlaDsBfVidEdbBSQeaejBgbDcbKma"
    , "daeazbfaFvbBarnaBmhzkBucBwacdcbBnaCpfcbcbmaiaBvaBzabccbfbbaBqbiaJeacaeaBDZsaBCjpqpBLlaIs"
    , "aFteCMgcbbfdBoceaGjbWbdCneMfbDbdCskBxdEtaCcoBpacbkcBxdcbhaCjcBkebhCkambCaikdcaDrccabbgac"
    , "aGbadhvbCfbdaBlgdeCsfnababaobDhhccbaxaDgfbaebbbJedgbbbBbbDhhcabbEcabacfbaDxabacdbeJzibbJ"
    , "wbbaeaFodcbeaBgjBofcdiajfccBumbbPqgbfbaDevcgbbbbEsfdabbbgbaCubdabaNjblbCaefabaxaHXtagoQY"
    , "yldcDSaeChgBOiaCldDdaBDBkbGYzBtcwUycrhcgBedFscCYdCceBxiaoaweboCAigbqcgbbbeDwaGegOlaCjdTo"
    , "dJubBCigEfgBTCIvJf" ])
  , (["nd", "decimalnumber", "digit"],
    [ "BwjCIojFejHqjPwjEojEojEojEojEojEojEojEojEojDsjEojCsjKsjCsjCTqjBmjLojEyjGkjgjHajDijFejgjC"
    , "AEojBAcjBmjHqjwjDijPqjBFMcjCCkjDFyjgjBEqjEyjCijFojKsjNejEojOkjDyjgtCyjQgjDyjZmjDijJmjCsj"
    , "QgjYYgjDMcjDijFejUojBKDyjECqBxDNcjQgjTijJnjBGvjHBaj" ])
  , (["nl", "letternumber"], ["IRucDYtBicdFMsaziocBSYljBIFgCaRsaiaFeeMEsEg"])
  , (["no", "othernumber"],
    [ "GwbfaccDMrfOmfEqcFdgIjgriQrjBPltBRvjSmaCMvadfgjHqpBpaBByChDavYgBdCBhaBTcdFijBehboBgjBnoB"
    , "SMifBHQnBsCndrbNdBaBkdBZghzgBniCxewfGebcpcBtCmiCabBecCxeEahyhBpgMsfNoBeGcjBqdEigFetOptBZ"
    , "xbQoiBHnsBGtuBCPqgBEswBLYftmtEeyIBuiBJtCgbcbdCyBsboBLam" ])
  , (["pc", "connectorpunctuation"], ["DraMBvbtaDGAobycJfa"])
  , (["pd", "dashpunctuation"],
    ["BtaCAuaBzaFKjaBNpaDBdfFHxacaBfbeaBcaReataEhaCZWabBlakaGnaFLoaMga"])
  , (["pe", "closepunctuation"],
    [ "BpaBzaBfaFPdabaCUoaDRdaCdapaYkabaBeaBPuababababababaDcaBgababababaPoabababababababababab"
    , "aCmabaBhaBOvabababaBsabababaQmababababadabababacbCZRqaIjaBdabababababababadarababaGoaBza"
    , "Bfacaca" ])
  , (["pf", "finalpunctuation"], ["HfaLWvadaBcaFFsabaeacapada"])
  , (["pi", "initialpunctuation"], ["GpaLXkacbcazaFFsabaeacapada"])
  , (["po", "otherpunctuation"],
    [ "BhcbccababbkbdbBbaCqafaobhaBBaaiaRyfBpaCcacacaBsbubbbnabcCwdDyaBrnIzcCcoBfaKbbkaFkaEqaEr"
    , "aPaamaOdaDmakbGmobaEiaCweebEhfGpaXoiBDtaEucCtbGbcbcBlfbdMbbIibEygbfGebkgBccEudCheCkbCmhl"
    , "aBGcbihiicdccdkbabjEUcdbbEiaFnbeccacibbbacbkebjcdbabmccQmcCfaHhaBRYgbKjcDvakaElfOqdDibBo"
    , "cbaBxbBvaDtmqbEudEwbqbJpaBFCugcawaubcddcbdhcgabbFtcbccababbkbdbBbaBkacbPucZsaBwaPyaBCpaH"
    , "raBfaKmiBmaEigCogDldBKqeBsdHhgEfbbdEwdBwbDbdeanabcDkfEdaLmbbbEkekbbaEaaJqwEbcBcmCyaFacJs"
    , "aKecFzaDohDfcbeDpjIhaDreBqbYvbCwmGtaBRseEJcbWDvbFdaCneiaVgcLjdMpaBDBoaLIleEItaBHeb" ])
  , (["ps", "openpunctuation"],
    [ "BoaByaBfaFPeabaCUoaDPmadaBmaCdapaYkabaBeaBPuababababababaDcaBgababababaPoabababababababa"
    , "bababaCmabaBhaBOvabababazasabababaQmababababadabababacaCZRtaIhaBdabababababababadarababa"
    , "GoaByaBfadaca" ])
  , (["sc", "currencysymbol"],
    ["BkaEvdBWjaEtaTebTebhaJlaKdaWjaDQpaDIiBgBZHvaBGMlaEeaFyaIlbdbMCsdCVXeaDRka"])
  , (["sk", "modifiersymbol"],
    ["DqabaCtagaeadaUbdmnfgbabqEnaobBXiaIUmabclcncncnbGHobBSVrwjbDzbBLoaobBEKkqBIhabaGgaDOLje"])
  , (["sm", "mathsymbol"],
    [ "BraqcCjabaBtaeaBlaBfaBDmaUhcJYhanaBncncFjaBnegaCqefbeacacahaBfbcabaBfKhBgbDmaBeyBofSbaja"
    , "CchEhaMyecBekpJwFawCkeBfcJxBwucfDASqaBFsabcGiaqcCjabaFbagdFEfbCYEzazaBfazaBfazaBfazaBfaz"
    , "aIUeb" ])
  , (["so", "othersymbol"],
    [ "GkacaeabaBLpaKgbExbHyakatbJnaTvaOjaFafbaFcaHzaBpaPbcpabccfuababaFdhbfbbfdHpbBCyjBBvaBBua"
    , "GbBhNpjjiCChbbdbbkabbgfbababaealboabbbaCgbjecdbbbbbgbBecbbabBeKihetcgcDcbBdzBngCtwkDdCzw"
    , "HabibCbiEgbJnBsBrCmJvTsBvvbgBmcBfbEaIvfNtbBuzbDkmIfBapeanbmavbgbMybejBgBljaqBelBdiapBfkB"
    , "mpMhJToClBGUiCcBHhdkbbaWbcBFJapExaBtcSqadaebnbMbiCfqccbmdaBvBsCLubWtaESsaDGnheqBCNidfaBE"
    , "UwaFVnJfqQtGaElCiJlkBmcChfcwbhBdeCivCndaHeDiBTxTrCddByhbnbbCOuaEHwaEzaBBtBreDvmocobobBkx"
    , "GeCeBcnBreihbofFyJqfBBzeqdmdEoeDqgleapleCdijgBniBdclebCkNbmncmdjfCdhockgihFqbDn" ])
  , (["zl", "lineseparator"], ["MEqa"])
  , (["zp", "paragraphseparator"], ["MEra"])
  , (["zs", "spaceseparator"], ["BgaExaIHjaDPnkBkaBvaFXwa"]) ]

/-- The names of the category of all other characters. -/
def unassignedNames : List String := ["cn", "unassigned"]

/-- The broader classes, each the union of the categories of the given names. -/
def categoryGroups : List (List String × List String) :=
  [ (["c", "other"], ["cc", "cf", "cn", "co"])
  , (["l", "letter"], ["ll", "lm", "lo", "lt", "lu"])
  , (["lc", "casedletter"], ["ll", "lt", "lu"])
  , (["m", "mark", "combiningmark"], ["mc", "me", "mn"])
  , (["n", "number"], ["nd", "nl", "no"])
  , (["p", "punctuation", "punct"], ["pc", "pd", "pe", "pf", "pi", "po", "ps"])
  , (["s", "symbol"], ["sc", "sk", "sm", "so"])
  , (["z", "separator"], ["zl", "zp", "zs"]) ]

end PagedTable.Pattern.Table
