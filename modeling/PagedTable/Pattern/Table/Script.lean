/-
  PagedTable.Pattern.Table.Script — which characters belong to which script.

  Every script comes with the names it goes by and the ranges of its characters, coded as
  `PagedTable.Pattern.Table.Code` reads them.  A second table gives the characters of other
  scripts that a script also uses.
-/

namespace PagedTable.Pattern.Table

/-- The scripts, each under its names. -/
def scripts : List (List String × List String) :=
  [ (["adlm", "adlam"], ["HDEuCxejeb"])
  , (["ahom"], ["EBRcBacoew"])
  , (["hluw", "anatolianhieroglyphs"], ["ESSeWk"])
  , (["arab", "arabic"],
    [ "CHcebfbnbcbBfbjlzbEdbBhDcBvJgBebbfCwbBcDNTwEkqNycDbcCbhaBgpEiebFeFVnBeCpcCddDGLsdbBabbba"
    , "cabjbdbabagaeabababcbbbacabababababbbacdbgbdbdbabjbqfcbebqCab" ])
  , (["armn", "armenian"], ["BZdBlcBxccDOZje"])
  , (["avst", "avestan"], ["DXCyCbdg"])
  , (["bali", "balinese"], ["KFwCybBx"])
  , (["bamu", "bamum"], ["CLCqDjCVCqVw"])
  , (["bass", "bassavah"], ["FHKiBdcf"])
  , (["batk", "batak"], ["KNgBzid"])
  , (["beng", "bengali"], ["DPodbhcbcvbgbaddcicbcdiaebbecy"])
  , (["bhks", "bhaiksuki"], ["EDOiibBsbnkBc"])
  , (["bopo", "bopomofo"], ["BCsbRLxBqEiBf"])
  , (["brah", "brahmi"], ["DZAeCzeBjja"])
  , (["brai", "braille"], ["PDwJv"])
  , (["bugi", "buginese"], ["JWaBbcb"])
  , (["buhd", "buhid"], ["IUyt"])
  , (["cans", "canadianaboriginal"], ["HOyYpVoCrDTPqp"])
  , (["cari", "carian"], ["DTYmBw"])
  , (["aghb", "caucasianalbanian"], ["DUXsBzla"])
  , (["cakm", "chakma"], ["DZKaCabr"])
  , (["cham"], ["CMJwCcjncjcd"])
  , (["cher", "cherokee"], ["HLgDhcfCFJeDb"])
  , (["chrs", "chorasmian"], ["DYXcBb"])
  , (["zyyy", "common"],
    [ "aCmBafBaBubobexaBfaRhBmfectEmajagabaYnagaoadaBgaGaaTwaEzbBVtaPpdLeaCGlcCtbHvbbaBVhanahdb"
    , "fbccaBDtlcDibkdkborBgClBlbccfbBabqBpceZpwkvBJrJwYdcBfbEaTsDpPmubabyphedDnbdaDmbFrpBgBlja"
    , "BwClBfDcBvaDkGlJToClBHSiBhDycGjjJkaGeaPfaobBEZqbIajwBibsbdFrabBfBafBakkaBtbCmgbgkeJyceBs"
    , "diDcmBzBsIuBaCSHwdFVgJpgQtGaElCiJlkBmcCjdqibhBdeCiIftmtmDijyFfDgbCsbbcacbcdblbabgbCmbdch"
    , "bgbBbbdbebadgbNbcLfcBxHThCpCyCiBBeBreDvmocobobBkkGrCezbbnBreihbofFyBLveqdmdEoeDqgleapleC"
    , "dijgBniBdclebCkNbmncmdjfCdhockgihFqbDxBSUXbaBeDr" ])
  , (["copt", "coptic", "qaac"], ["BMgnPJkElfg"])
  , (["xsux", "cuneiform"], ["EFBsBJlDyEgbelHn"])
  , (["cprt", "cypriot"], ["DVZkfcabBrbbdaca"])
  , (["cpmn", "cyprominoan"], ["EKYyDu"])
  , (["cyrl", "cyrillic"], ["BNkFccGmIVokGeaCyaGFnBfBTOaDrBHEcbDHPgCjBha"])
  , (["dsrt", "deseret"], ["DUMaDb"])
  , (["deva", "devanagari"], ["DKqDceoczCIJgBfBREmj"])
  , (["diak", "divesakuru"], ["ECKugcachbbbBdbbcljj"])
  , (["dogr", "dogra"], ["ECAyCh"])
  , (["dupl", "duployan"], ["GMDsEcfmdihjcd"])
  , (["egyp", "egyptianhieroglyphs"], ["ELDgBQrkFXq"])
  , (["elba", "elbasan"], ["DUVwBn"])
  , (["elym", "elymaic"], ["DYYyw"])
  , (["ethi", "ethiopic"],
    ["GVgCubdcgbabdcBobdcBgbdcgbabdcobCebdcCocBfdzJVawjgbgbgbgbgbgbgbgBVKcfcfcfjgbgEPYfgbdbbbo"])
  , (["gara", "garay"], ["DXZcBldBcib"])
  , (["geor", "georgian"], ["GHsBlbafacBqbdEJwBqccGEaBlbafa"])
  , (["glag", "glagolitic"], ["QRgDrGIZggbqcgbbbe"])
  , (["goth", "gothic"], ["DUEaBa"])
  , (["gran", "grantha"], ["EADsdbhcbcvbgbbbecicbcccagafgcgde"])
  , (["grek", "greek"],
    [ "BHwdbccdbaeababcbabtbCkopJNqeByeeeDgaMivcfcBlcfchbabababBecCabobncfbsccbiLjaCAJeaBGNiDar"
    , "aDAXrCr" ])
  , (["gujr", "gujarati"], ["DZlcbibcbvbgbbbecjbcbccapdclhg"])
  , (["gong", "gunjalagondi"], ["EEBwfbbbBkbbbfhj"])
  , (["guru", "gurmukhi"], ["DUncbfebcvbgbbbbbbcabeebccdahdbahq"])
  , (["gukh", "gurungkhema"], ["FDRsCf"])
  , (["hani", "han"],
    [ "RPwzbDkmIfBvabaziodBLcJTnCmBFBjBHSiObcEbBSIibmbCCOkCLFbBgGDtgIncINpoLBkpXxDQwUvCFyHHyfGF"
    , "f" ])
  , (["hang", "hangul"], ["GLkJvLLebJxDpEjBeCnBeBTAnBcYtQNrmweBwPAiBedfcfcfcc"])
  , (["rohg", "hanifirohingya"], ["DXWqBnij"])
  , (["hano", "hanunoo"], ["ITsu"])
  , (["hatr", "hatran"], ["DWIasbbfe"])
  , (["hebr", "hebrew"], ["CCvCciBaefDOVwzbebabbbbbj"])
  , (["hira", "hiragana"], ["SHdDhgcFPEvLasaBdcYMva"])
  , (["armi", "imperialaramaic"], ["DWBwvbi"])
  , (["zinh", "inherited", "qaai"],
    [ "BDoEhKrbRkkBaaBCidGOxBeTtcbmbgeagadbHqClUebHmBgFTxdEdbCZUjpqnBLnaIsaGFaaCTCuBtcwUycrhcgB"
    , "edBTLHiJf" ])
  , (["phli", "inscriptionalpahlavi"], ["DXGqsfh"])
  , (["prti", "inscriptionalparthian"], ["DXFkvch"])
  , (["java", "javanese"], ["CMEyCzcjeb"])
  , (["kthi", "kaithi"], ["DZFcCoka"])
  , (["knda", "kannada"], ["ETcmbcbwbjbecibcbdhbgbbdcjbc"])
  , (["kana", "katakana"], ["SKvDlccJgpIaBubDjCZHejbBsCOUcdbgbbbaLbcByaod"])
  , (["kawi"], ["EERwqbBodBc"])
  , (["kali", "kayahli"], ["CMAaBtba"])
  , (["khar", "kharoshthi"], ["DWTcdbbfhbcbBcccejhi"])
  , (["kits", "khitansmallscript"], ["FJIiaKGxSbBpa"])
  , (["khmr", "khmer"], ["IXkDpcjgjSsBf"])
  , (["khoj", "khojki"], ["DZTwrbBu"])
  , (["sind", "khudawadi"], ["EAAqCgfj"])
  , (["krai", "kiratrai"], ["FIIiCf"])
  , (["laoo", "lao"], ["FMvbbabebxbabwcebabgbjcd"])
  , (["latn", "latin"],
    [ "CnzgzBvapafwbBebRgBneJXbBlgBwfdfmbCrCnJvOfanaqmFlbgaBbarBoECtBfBULmDxdCocbbabhvnBFkBqbib"
    , "dBEDqgBOkzgzDCffbBpbiDDNpBegf" ])
  , (["lepc", "lepcha"], ["KPsCddodc"])
  , (["limb", "limbu"], ["JMeBebleleadl"])
  , (["lina", "lineara"], ["DVFsLyjvkh"])
  , (["linb", "linearb"], ["DSYqlbzbsbbbocnBiEs"])
  , (["lisu"], ["CKKuBvBUMaa"])
  , (["lyci", "lycian"], ["DTXgBc"])
  , (["lydi", "lydian"], ["DWKmzfa"])
  , (["mahj", "mahajani"], ["DZNcBm"])
  , (["maka", "makasar"], ["EEQqy"])
  , (["mlym", "malayalam"], ["EYambcbBybcbfepcz"])
  , (["mand", "mandaic"], ["DDgBbca"])
  , (["mani", "manichaean"], ["DXAmBmel"])
  , (["marc", "marchen"], ["EDSqBfcvbn"])
  , (["gonm", "masaramgondi"], ["EDYegbbbBrdabbbiij"])
  , (["medf", "medefaidrin"], ["FISeDm"])
  , (["mtei", "meeteimayek"], ["CMSmwHtBtcj"])
  , (["mend", "mendekikakui"], ["HCUyHocp"])
  , (["merc", "meroiticcursive"], ["DWPkxetcBt"])
  , (["mero", "meroitichieroglyphs"], ["DWOeBf"])
  , (["plrd", "miao"], ["FIZoCweCehq"])
  , (["modi"], ["EBHgCqlj"])
  , (["mong", "mongolian"], ["JCibcabtgDkhBqDSCbm"])
  , (["mroo", "mro"], ["FHEuBebjeb"])
  , (["mult", "multani"], ["DZYugbabdbobk"])
  , (["mymr", "myanmar"], ["GBoGdCGAyBeDtBfBPAmt"])
  , (["nbat", "nabataean"], ["DWEiBeii"])
  , (["nagm", "nagmundari"], ["HBPoBp"])
  , (["nand", "nandinagari"], ["ECQyhcBtck"])
  , (["talu", "newtailue"], ["JRcBrezgkdb"])
  , (["newa"], ["EANoDnbe"])
  , (["nkoo", "nko"], ["CYiCgcc"])
  , (["nshu", "nushu"], ["FJIfaYVmPf"])
  , (["hmnp", "nyiakengpuachuehmong"], ["HAEaBsdncjeb"])
  , (["ogam", "ogham"], ["INoBc"])
  , (["olck", "olchiki"], ["KSuBv"])
  , (["onao", "olonal"], ["HBZkBqea"])
  , (["hung", "oldhungarian"], ["DXRsBynByhf"])
  , (["ital", "olditalic"], ["DUCeBjjc"])
  , (["narb", "oldnortharabian"], ["DWYaBf"])
  , (["perm", "oldpermic"], ["DUFgBq"])
  , (["xpeo", "oldpersian"], ["DUIiBjen"])
  , (["sogo", "oldsogdian"], ["DYQiBn"])
  , (["sarb", "oldsoutharabian"], ["DWWuBf"])
  , (["orkh", "oldturkic"], ["DXMuCu"])
  , (["ougr", "olduyghur"], ["DYUqz"])
  , (["orya", "oriya"], ["EEjcbhcbcvbgbbbecicbcchcebbecr"])
  , (["osge", "osage"], ["DUSuBjeBj"])
  , (["osma", "osmanya"], ["DUQyBdcj"])
  , (["hmng", "pahawhhmong"], ["FHMeCrkjbgbufs"])
  , (["palm", "palmyrene"], ["DWDcBf"])
  , (["pauc", "paucinhau"], ["EDCaCe"])
  , (["phag", "phagspa"], ["CLSqCd"])
  , (["phnx", "phoenician"], ["DWJgBbda"])
  , (["phlp", "psalterpahlavi"], ["DXHwrhdmg"])
  , (["rjng", "rejang"], ["CMBwBjla"])
  , (["runr", "runic"], ["IOuCwdk"])
  , (["samr", "samaritan"], ["DAuBtco"])
  , (["saur", "saurashtra"], ["CLVcCril"])
  , (["shrd", "sharada"], ["DZOyDr"])
  , (["shaw", "shavian"], ["DUPcBv"])
  , (["sidd", "siddham"], ["EBCiCbcBl"])
  , (["sgnw", "signwriting"], ["GWTkZbpebo"])
  , (["sinh", "sinhala"], ["FCzcbrdxbibacgdaefbabhgjccDULgt"])
  , (["sogd", "sogdian"], ["DYSeBp"])
  , (["sora", "sorasompeng"], ["DZIeyhj"])
  , (["soyo", "soyombo"], ["ECXsDe"])
  , (["sund", "sundanese"], ["KKuClJwh"])
  , (["sunu", "sunuwar"], ["EDLwBhoj"])
  , (["sylo", "sylotinagri"], ["CLQeBs"])
  , (["syrc", "syriac"], ["CQynbChccKmk"])
  , (["tglg", "tagalog"], ["ISmvja"])
  , (["tagb", "tagbanwa"], ["IWembcbb"])
  , (["tale", "taile"], ["JPgBdce"])
  , (["lana", "taitham"], ["JXgCkbBcckgjgn"])
  , (["tavt", "taiviet"], ["CMOuCoye"])
  , (["takr", "takri"], ["EBMeCfgj"])
  , (["taml", "tamil"], ["EJibbfdcbddbbabbdbdcdleedcbdcagaouEALhBxna"])
  , (["tnsa", "tangsa"], ["FHGqDabj"])
  , (["tang", "tangut"], ["FJIeaBfJBziBDnTsi"])
  , (["telu", "telugu"], ["EOembcbwbpcibcbdhbbccacdcjhi"])
  , (["thaa", "thaana"], ["CVwBx"])
  , (["thai"], ["FHxCffBb"])
  , (["tibt", "tibetan"], ["FRsCtbBjeBmbBjbobgeb"])
  , (["tfng", "tifinagh"], ["RCyCdhboa"])
  , (["tirh", "tirhuta"], ["EASmCtij"])
  , (["todr", "todhri"], ["DVDgBz"])
  , (["toto"], ["HATkBe"])
  , (["tutg", "tulutigalari"], ["EAIqjbacabBlbjbacabdbjbbib"])
  , (["ugar", "ugaritic"], ["DUHcBdba"])
  , (["vaii", "vai"], ["CKMqLn"])
  , (["vith", "vithkuqi"], ["DVAekbobgbbbkbobgbb"])
  , (["wcho", "wancho"], ["HAVgCffa"])
  , (["wara", "warangciti"], ["ECHcDema"])
  , (["yezi", "yezidi"], ["DYLkBpbccb"])
  , (["yiii", "yi"], ["CIPkBSudCc"])
  , (["zanb", "zanabazarsquare"], ["ECUqCt"]) ]

/-- The characters that a script, given by its first name, shares with others. -/
def scriptExtras : List (List String × List String) :=
  [ (["adlm"], ["CIhaBgaJWoaFHha"])
  , (["arab"], ["CHoaoadaBgakkBaaJUsaFHhaDAKabCDkBb"])
  , (["armn"], ["BDwa"])
  , (["avst"], ["HbaRFsb"])
  , (["beng"], ["BAyaCMubrbHJeabacbbaiaiacaeaccCBAfa"])
  , (["bopo"], ["BBjabcnaRCpcejbmkdcagaHnaCZThbKwe"])
  , (["bugi"], ["CMHza"])
  , (["buhd"], ["IUnb"])
  , (["cari"], ["HbaLZmacaFGda"])
  , (["aghb"], ["BDsaBsaBsa"])
  , (["cakm"], ["DTmjCKej"])
  , (["cher"], ["BDocbagbwblb"])
  , (["copt"], ["HbaWmadbbaEebQDtaDCPcBb"])
  , (["cprt"], ["DTImceBsdi"])
  , (["cpmn"], ["DTImb"])
  , (["cyrl"], ["BAyaCpcbababacafaOhbJQnaGEka"])
  , (["deva"], ["BAyaCMubrbHJeBmbbBNaaBZFrj"])
  , (["dogr"], ["DOmlCIDcj"])
  , (["dupl"], ["HbaWtbbaybQIhaFUWpd"])
  , (["elba"], ["HbaWra"])
  , (["ethi"], ["BEca"])
  , (["gara"], ["CHoaoada"])
  , (["geor"], ["HbaBVlaEIraFViaFGga"])
  , (["glag"], ["HbaWpabaOsacaJxaEIraFViaFGyaBTNfa"])
  , (["goth"], ["HbaWqbcaBoa"])
  , (["gran"], ["DNtbrbYqnGKaabbBecdbBNaaDNTqaETwbba"])
  , (["grek"], ["HbaWmbcababakaBuacaBuaJYxbZra"])
  , (["gujr"], ["DNtbrbCIDmj"])
  , (["gong"], ["HbaDHkb"])
  , (["guru"], ["DNtbrbCIDmj"])
  , (["gukh"], ["DOna"])
  , (["hani"],
    ["HbaRWypbccabjbmkdcagaedHfaFspBgBljaBwBnCeBwplBzaDkykeDsBeBROjhBHAzbKweDCHerLRyb"])
  , (["hang"], ["SErcejbmqagaHnaCZThbKwe"])
  , (["rohg"], ["CHoaoadaBgaFra"])
  , (["hano"], ["IUnb"])
  , (["hebr"], ["BDvb"])
  , (["hira"], ["SErcejbmqfbaebDnddaDmbCZTgbKwekaBtb"])
  , (["java"], ["CMHza"])
  , (["kthi"], ["DOojNXxaBUFej"])
  , (["knda"], ["DNtbrbHJeabbgaxabaCASxf"])
  , (["kana"], ["BDtaBdaQZtcejbmqfbaebDnddaDmbCZTgbKwekaBtb"])
  , (["kali"], ["CMBua"])
  , (["khoj"], ["EDijCHOij"])
  , (["sind"], ["DOmbCIDmj"])
  , (["latn"], ["HbaTwakabcbajabaBmobbbamacchbbbBmafaemKrbBVebCXkaEXwaVuaHkaEZmaBTUmhVea"])
  , (["limb"], ["DOna"])
  , (["lina"], ["DTItBs"])
  , (["linb"], ["DTImceBsdi"])
  , (["lisu"], ["BAyaqaRDkb"])
  , (["lyci"], ["MGoa"])
  , (["lydi"], ["HbaRFta"])
  , (["mahj"], ["HbaDHklCIDcj"])
  , (["mlym"], ["DNtbrbHJoaxaCASzc"])
  , (["mand"], ["CJoa"])
  , (["mani"], ["CJoa"])
  , (["gonm"], ["DOmb"])
  , (["mero"], ["MGra"])
  , (["modi"], ["CLSaj"])
  , (["mong"], ["JCkbbaDCjaFZtbfd"])
  , (["mult"], ["DYkj"])
  , (["mymr"], ["CMBua"])
  , (["nand"], ["DOmbBImjGBhaiahaCASrf"])
  , (["nkoo"], ["CHoaoadaDPPeb"])
  , (["onao"], ["DOmb"])
  , (["hung"], ["MGoacaFGdapa"])
  , (["perm"], ["HbaWmafckaOda"])
  , (["orkh"], ["MGoaFGfa"])
  , (["ougr"], ["CJoaDUSva"])
  , (["orya"], ["DNtbrbHJoaxa"])
  , (["osge"], ["BDpacagaCya"])
  , (["phag"], ["JCkbbaDCjaFZua"])
  , (["phlp"], ["CJoa"])
  , (["runr"], ["IRrc"])
  , (["samr"], ["RMva"])
  , (["shrd"], ["DNtaHKfabacbcaCATrfca"])
  , (["shaw"], ["Hba"])
  , (["sinh"], ["DOmbHKma"])
  , (["sogd"], ["CJoa"])
  , (["sunu"], ["BDobbajacaBcada"])
  , (["sylo"], ["DOmbEyj"])
  , (["syrc"], ["BDrbcbbavacchbbaBCdaobcaBgakkBaaIXraba"])
  , (["tglg"], ["IUnb"])
  , (["tagb"], ["IUnb"])
  , (["tale"], ["BDobfbdaEZzj"])
  , (["takr"], ["DOmbCIDmj"])
  , (["taml"], ["DNtbrbHJoaCBBkaBOEfabaCdb"])
  , (["tang"], ["SEapTba"])
  , (["telu"], ["DNtbrbHJoaxa"])
  , (["thaa"], ["CHoaobcaCmjDPTgaka"])
  , (["thai"], ["BAyaBaaBraBta"])
  , (["tibt"], ["SEyd"])
  , (["tfng"], ["BDqabacaba"])
  , (["tirh"], ["DNtbrbHKmaCASzj"])
  , (["todr"], ["BDpacacajabaCwa"])
  , (["toto"], ["BAya"])
  , (["tutg"], ["EXajGBqabaCASxfHfa"])
  , (["yezi"], ["CHoaoadaCmj"])
  , (["yiii"], ["SErbfjchIpaDAEfe"]) ]

end PagedTable.Pattern.Table
