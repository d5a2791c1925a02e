import PackQuery.CharSet

/-!
# General categories of characters

Every character has a general category, such as `Lu` for upper-case letters or `Nd` for decimal
digits. The first letter of a category is the larger class that it belongs to.

**Runs.** The categories of all code points from 0 on are those that version 16.0 of the Unicode
standard assigns. Each run is written as its length, left out if it is 1, and the two letters of its
category. Behind the last run nothing is assigned.
-/

namespace PackQuery.Unicode

/-- The runs, from code point 0 on, cut into lines between runs. -/
def categoryRuns : List String := [
  "32CcZs3PoSc3PoPsPePoSmPoPd2Po10Nd2Po3Sm2Po26LuPsPoPeSkPcSk26LlPsSmPeSm33CcZsPo4ScSoPoSkSoLoPi",
  "SmCfSoSkSoSm2NoSkLl2PoSkNoLoPf3NoPo23LuSm7Lu24LlSm8LlLuLlLuLlLuLlLuLlLuLlLuLlLuLlLuLlLuLlLuLl",
  "LuLlLuLlLuLlLuLlLuLlLuLlLuLlLuLlLuLlLuLlLuLlLuLlLuLlLuLlLuLlLuLlLuLlLu2LlLuLlLuLlLuLlLuLlLuLl",
  "LuLlLuLlLu2LlLuLlLuLlLuLlLuLlLuLlLuLlLuLlLuLlLuLlLuLlLuLlLuLlLuLlLuLlLuLlLuLlLuLlLuLlLuLlLuLl",
  "LuLlLuLlLuLl2LuLlLuLlLu3Ll2LuLlLuLl2LuLl3Lu2Ll4LuLl2LuLl3Lu3Ll2LuLl2LuLlLuLlLuLl2LuLlLu2LlLuLl",
  "2LuLl3LuLlLuLl2Lu2LlLoLu3Ll4LoLuLtLlLuLtLlLuLtLlLuLlLuLlLuLlLuLlLuLlLuLlLuLlLu2LlLuLlLuLlLuLl",
  "LuLlLuLlLuLlLuLlLuLlLu2LlLuLtLlLuLl3LuLlLuLlLuLlLuLlLuLlLuLlLuLlLuLlLuLlLuLlLuLlLuLlLuLlLuLlLu",
  "LlLuLlLuLlLuLlLuLlLuLlLuLlLuLlLuLlLuLlLuLlLuLlLuLlLuLlLuLlLu7Ll2LuLl2Lu2LlLuLl4LuLlLuLlLuLlLu",
  "LlLu69LlLo27Ll18Lm4Sk12Lm14Sk5Lm7SkLmSkLm17Sk112MnLuLlLuLlLmSkLuLl2CnLm3LlPoLu4Cn2SkLuPo3LuCn",
  "LuCn2LuLl17LuCn9Lu35LlLu2Ll3Lu3LlLuLlLuLlLuLlLuLlLuLlLuLlLuLlLuLlLuLlLuLlLuLlLu5LlLuLlSmLuLl",
  "2Lu2Ll51Lu48LlLuLlLuLlLuLlLuLlLuLlLuLlLuLlLuLlLuLlLuLlLuLlLuLlLuLlLuLlLuLlLuLlLuLlSo5Mn2MeLuLl",
  "LuLlLuLlLuLlLuLlLuLlLuLlLuLlLuLlLuLlLuLlLuLlLuLlLuLlLuLlLuLlLuLlLuLlLuLlLuLlLuLlLuLlLuLlLuLlLu",
  "LlLuLlLuLl2LuLlLuLlLuLlLuLlLuLlLuLlLu2LlLuLlLuLlLuLlLuLlLuLlLuLlLuLlLuLlLuLlLuLlLuLlLuLlLuLlLu",
  "LlLuLlLuLlLuLlLuLlLuLlLuLlLuLlLuLlLuLlLuLlLuLlLuLlLuLlLuLlLuLlLuLlLuLlLuLlLuLlLuLlLuLlLuLlLuLl",
  "LuLlLuLlLuLlLuLlLuLlLuLlLuLlLuLlLuLlLuLlLuLlCn38Lu2CnLm6Po41LlPoPd2Cn2SoScCn45MnPdMnPo2MnPo2Mn",
  "PoMn8Cn27Lo4Cn4Lo2Po11Cn6Cf3Sm2PoSc2Po2So11MnPoCf3Po32LoLm10Lo21Mn10Nd4Po2LoMn99LoPoLo7MnCfSo",
  "6Mn2Lm2MnSo4Mn2Lo10Nd3Lo2SoLo14PoCnCfLoMn30Lo27Mn2Cn89Lo11MnLo14Cn10Nd33Lo9Mn2LmSo3PoLm2CnMn",
  "2Sc22Lo4MnLm9MnLm3MnLm5Mn2Cn15PoCn25Lo3Mn2CnPoCn11Lo5Cn24LoSk6LoCn2Cf5Cn9Mn41LoLm24MnCf32MnMc",
  "54LoMnMcMnLo3Mc8Mn4McMn2McLo7Mn10Lo2Mn2Po10NdPoLm15LoMn2McCn8Lo2Cn2Lo2Cn22LoCn7LoCnLo3Cn4Lo2Cn",
  "MnLo3Mc4Mn2Cn2Mc2Cn2McMnLo8CnMc4Cn2LoCn3Lo2Mn2Cn10Nd2Lo2Sc6NoSoScLoPoMn2Cn2MnMcCn6Lo4Cn2Lo2Cn",
  "22LoCn7LoCn2LoCn2LoCn2Lo2CnMnCn3Mc2Mn4Cn2Mn2Cn3Mn3CnMn7Cn4LoCnLo7Cn10Nd2Mn3LoMnPo10Cn2MnMcCn",
  "9LoCn3LoCn22LoCn7LoCn2LoCn5Lo2CnMnLo3Mc5MnCn2MnMcCn2McMn2CnLo15Cn2Lo2Mn2Cn10NdPoSc7CnLo6MnCnMn",
  "2McCn8Lo2Cn2Lo2Cn22LoCn7LoCn2LoCn5Lo2CnMnLoMcMnMc4Mn2Cn2Mc2Cn2McMn7Cn2MnMc4Cn2LoCn3Lo2Mn2Cn",
  "10NdSoLo6No10CnMnLoCn6Lo3Cn3LoCn4Lo3Cn2LoCnLoCn2Lo3Cn2Lo3Cn3Lo3Cn12Lo4Cn2McMn2Mc3Cn3McCn3McMn",
  "2CnLo6CnMc14Cn10Nd3No6SoScSo5CnMn3McMn8LoCn3LoCn23LoCn16Lo2CnMnLo3Mn4McCn3MnCn4Mn7Cn2MnCn3Lo",
  "2CnLo2Cn2Lo2Mn2Cn10Nd7CnPo7NoSoLoMn2McPo8LoCn3LoCn23LoCn10LoCn5Lo2CnMnLoMcMn5McCnMn2McCn2Mc2Mn",
  "7Cn2Mc6Cn2LoCn2Lo2Mn2Cn10NdCn2LoMc12Cn2Mn2Mc9LoCn3LoCn41Lo2MnLo3Mc4MnCn3McCn3McMnLoSo4Cn3LoMc",
  "7No3Lo2Mn2Cn10Nd9NoSo6LoCnMn2McCn18Lo3Cn24LoCn9LoCnLo2Cn7Lo3CnMn4Cn3Mc3MnCnMnCn8Mc6Cn10Nd2Cn",
  "2McPo12Cn48LoMn2Lo7Mn4CnSc6LoLm8MnPo10Nd2Po37Cn2LoCnLoCn5LoCn24LoCnLoCn10LoMn2Lo9MnLo2Cn5LoCn",
  "LmCn7MnCn10Nd2Cn4Lo32CnLo3So15PoSoPo3So2Mn6So10Nd10NoSoMnSoMnSoMnPsPePsPe2Mc8LoCn36Lo4Cn14MnMc",
  "5MnPo2Mn5Lo11MnCn36MnCn8SoMn6SoCn2So5Po4So2Po37Cn43Lo2Mc4MnMc6MnMc2Mn2Mc2MnLo10Nd6Po6Lo2Mc2Mn",
  "4Lo3MnLo3Mc2Lo7Mc3Lo4Mn13LoMn2Mc2Mn6McMnLoMc10Nd3McMn2So38LuCnLu5CnLu2Cn43LlPoLm3Ll329LoCn4Lo",
  "2Cn7LoCnLoCn4Lo2Cn41LoCn4Lo2Cn33LoCn4Lo2Cn7LoCnLoCn4Lo2Cn15LoCn57LoCn4Lo2Cn67Lo2Cn3Mn9Po20No",
  "3Cn16Lo10So6Cn86Lu2Cn6Ll2CnPd620LoSoPo17LoZs26LoPsPe3Cn75Lo3Po3Nl8Lo7Cn18Lo3MnMc9Cn19Lo2MnMc",
  "2Po9Cn18Lo2Mn12Cn13LoCn3LoCn2Mn12Cn52Lo2MnMc7Mn8McMn2Mc11Mn3PoLm3PoScLoMn2Cn10Nd6Cn10No6Cn6Po",
  "Pd4Po3MnCfMn10Nd6Cn35LoLm53Lo7Cn5Lo2Mn34LoMnLo5Cn70Lo10Cn31LoCn3Mn4Mc2Mn3Mc4Cn2McMn6Mc3Mn4CnSo",
  "3Cn2Po10Nd30Lo2Cn5Lo11Cn44Lo4Cn26Lo6Cn10NdNo3Cn34So23Lo2Mn2McMn2Cn2Po53LoMcMnMc7MnCnMnMcMn2Mc",
  "8Mn6Mc10Mn2CnMn10Nd6Cn10Nd6Cn7PoLm6Po2Cn14MnMe16Mn49Cn4MnMc47LoMnMc5MnMcMn5McMn2Mc8LoCn2Po10Nd",
  "7Po10So9Mn9So3Po2MnMc30LoMc4Mn2Mc2MnMc3Mn2Lo10Nd44LoMnMc2Mn3McMnMc3Mn2Mc8Cn4Po36Lo8Mc8Mn2Mc2Mn",
  "3Cn5Po10Nd3Cn3Lo10Nd30Lo6Lm2Po9LlLuLl5Cn43Lu2Cn3Lu8Po8Cn3MnPo13MnMc7Mn4LoMn6LoMn2LoMc2MnLo5Cn",
  "44Ll63Lm13LlLm34Ll37Lm64MnLuLlLuLlLuLlLuLlLuLlLuLlLuLlLuLlLuLlLuLlLuLlLuLlLuLlLuLlLuLlLuLlLuLl",
  "LuLlLuLlLuLlLuLlLuLlLuLlLuLlLuLlLuLlLuLlLuLlLuLlLuLlLuLlLuLlLuLlLuLlLuLlLuLlLuLlLuLlLuLlLuLlLu",
  "LlLuLlLuLlLuLlLuLlLuLlLuLlLuLlLuLlLuLlLuLlLuLlLuLlLuLlLuLlLuLlLuLlLuLlLuLlLuLlLuLlLuLlLuLlLuLl",
  "LuLlLuLlLuLlLuLlLuLlLuLlLuLlLuLlLuLlLuLlLu9LlLuLlLuLlLuLlLuLlLuLlLuLlLuLlLuLlLuLlLuLlLuLlLuLl",
  "LuLlLuLlLuLlLuLlLuLlLuLlLuLlLuLlLuLlLuLlLuLlLuLlLuLlLuLlLuLlLuLlLuLlLuLlLuLlLuLlLuLlLuLlLuLlLu",
  "LlLuLlLuLlLuLlLuLlLuLlLuLlLuLlLuLlLuLlLuLlLuLlLuLlLu9Ll8Lu6Ll2Cn6Lu2Cn8Ll8Lu8Ll8Lu6Ll2Cn6Lu2Cn",
  "8LlCnLuCnLuCnLuCnLu8Ll8Lu14Ll2Cn8Ll8Lt8Ll8Lt8Ll8Lt5LlCn2Ll4LuLtSkLl3Sk3LlCn2Ll4LuLt3Sk4Ll2Cn",
  "2Ll4LuCn3Sk8Ll5Lu3Sk2Cn3LlCn2Ll4LuLt2SkCn11Zs5Cf6Pd2PoPiPfPs2PiPfPsPi8PoZlZp5CfZs9PoPiPf4Po2Pc",
  "3PoSmPsPe11PoSmPoPc10PoZs5CfCn10CfNoLm2Cn6No3SmPsPeLm10No3SmPsPeCn13Lm3Cn33Sc15Cn13Mn4MeMn3Me",
  "12Mn15Cn2SoLu4SoLu2SoLl3Lu2Ll3LuLlSoLu2SoSm5Lu6SoLuSoLuSoLuSo4LuSoLl4LuLl4LoLl2So2Ll2Lu5SmLu",
  "4LlSoSm2SoLlSo16No35NlLuLl4NlNo2So4Cn5Sm5So2Sm4SoSm2SoSm2SoSm7SoSm31So2Sm2SoSmSoSm31So268Sm8So",
  "PsPePsPe20So2Sm7SoPsPe81SoSm30So25Sm40So6Sm72So22Cn11So21Cn60No78So22No183SoSm9SoSm54So8Sm",
  "111SoSm248SoPsPePsPePsPePsPePsPePsPePsPe30No44So5SmPsPe31SmPsPePsPePsPePsPePsPe16Sm256So131Sm",
  "PsPePsPePsPePsPePsPePsPePsPePsPePsPePsPePsPe63SmPsPePsPe32SmPsPe258Sm48So21Sm2So6Sm39So2Cn32So",
  "Cn105So48Lu48LlLuLl3Lu2LlLuLlLuLlLuLl4LuLlLu2LlLu6Ll2Lm3LuLlLuLlLuLlLuLlLuLlLuLlLuLlLuLlLuLlLu",
  "LlLuLlLuLlLuLlLuLlLuLlLuLlLuLlLuLlLuLlLuLlLuLlLuLlLuLlLuLlLuLlLuLlLuLlLuLlLuLlLuLlLuLlLuLlLuLl",
  "LuLlLuLlLuLlLuLlLuLlLuLlLuLlLuLlLuLlLuLlLuLlLuLlLuLlLuLlLuLlLuLlLu2Ll6SoLuLlLuLl3MnLuLl5Cn4Po",
  "No2Po38LlCnLl5CnLl2Cn56Lo7CnLmPo14CnMn23Lo9Cn7LoCn7LoCn7LoCn7LoCn7LoCn7LoCn7LoCn7LoCn32Mn2PoPi",
  "PfPiPf3PoPiPfPoPiPf9PoPd2PoPdPoPiPf2PoPiPfPsPePsPePsPePsPe5PoLm10Po2Pd4PoPdPoPs13Po2So3PoPsPe",
  "PsPePsPePsPePd34Cn26SoCn89So12Cn214So26Cn16SoZs3PoSoLmLoNlPsPePsPePsPePsPePsPe2SoPsPePsPePsPe",
  "PsPePdPs2PeSo9Nl4Mn2McPd5Lm2So3NlLmLoPo2SoCn86Lo2Cn2Mn2Sk2LmLoPd90LoPo3LmLo5Cn43LoCn94LoCn2So",
  "4No10So32Lo38So9CnSo16Lo31SoCn10No30So8NoSo15No32So10No39So15No320So6592Lo64So21013LoLm1143Lo",
  "3Cn55So9Cn40Lo6Lm2Po268LoLm3Po16Lo10Nd2Lo20CnLuLlLuLlLuLlLuLlLuLlLuLlLuLlLuLlLuLlLuLlLuLlLuLl",
  "LuLlLuLlLuLlLuLlLuLlLuLlLuLlLuLlLuLlLuLlLuLlLoMn3MePo10MnPoLmLuLlLuLlLuLlLuLlLuLlLuLlLuLlLuLl",
  "LuLlLuLlLuLlLuLlLuLlLuLl2Lm2Mn70Lo10Nl2Mn6Po8Cn23Sk9Lm2SkLuLlLuLlLuLlLuLlLuLlLuLlLu3LlLuLlLuLl",
  "LuLlLuLlLuLlLuLlLuLlLuLlLuLlLuLlLuLlLuLlLuLlLuLlLuLlLuLlLuLlLuLlLuLlLuLlLuLlLuLlLuLlLuLlLuLlLu",
  "LlLuLlLuLlLuLlLuLlLuLlLm8LlLuLlLuLl2LuLlLuLlLuLlLuLlLuLlLm2SkLuLlLuLlLoLuLlLu3LlLuLlLuLlLuLlLu",
  "LlLuLlLuLlLuLlLuLlLuLlLuLl5LuLl5LuLlLuLlLuLlLuLlLuLlLuLlLuLlLuLl4LuLlLuLl2LuLl2CnLuLlCnLlCnLl",
  "LuLlLuLlLuLlLu21Cn3LmLuLlLo2LmLl7LoMn3LoMn4LoMn23Lo2Mc2MnMc4SoMn3Cn6No2SoScSo6Cn52Lo4Po8Cn2Mc",
  "50Lo16Mc2Mn8Cn2Po10Nd6Cn18Mn6Lo3PoLoPo2LoMn10Nd28Lo8Mn2Po23Lo11Mn2Mc11CnPo29Lo3Cn3MnMc47LoMn",
  "2Mc4Mn2Mc2Mn3Mc13PoCnLm10Nd4Cn2Po5LoMnLm9Lo10Nd5LoCn41Lo6Mn2Mc2Mn2Mc2Mn9Cn3LoMn8LoMnMc2Cn10Nd",
  "2Cn4Po16LoLm6Lo3SoLoMcMnMc50LoMnLo3Mn2Lo2Mn5Lo2MnLoMnLo24Cn2LoLm2Po11LoMc2Mn2Mc2PoLo2LmMcMn",
  "10Cn6Lo2Cn6Lo2Cn6Lo9Cn7LoCn7LoCn43LlSk4Lm9LlLm2Sk4Cn80Ll35Lo2McMn2McMn2McPoMcMn2Cn10Nd6Cn",
  "11172Lo12Cn23Lo4Cn49Lo4Cn2048Cs6400Co366Lo2Cn106Lo38Cn7Ll12Cn5Ll5CnLoMn10LoSm13LoCn5LoCnLoCn",
  "2LoCn2LoCn108Lo17Sk16Cn363LoPePs16So64Lo2Cn54Lo7CnSo32Cn12LoSc3So16Mn7PoPsPePo6Cn16MnPo2Pd2Pc",
  "PsPePsPePsPePsPePsPePsPePsPePsPe2PoPsPe4Po3Pc3PoCn4PoPdPsPePsPePsPe3PoSmPd3SmCnPoSc2Po4Cn5LoCn",
  "135Lo2CnCfCn3PoSc3PoPsPePoSmPoPd2Po10Nd2Po3Sm2Po26LuPsPoPeSkPcSk26LlPsSmPeSmPsPePoPsPe2Po10Lo",
  "Lm45Lo2Lm31Lo3Cn6Lo2Cn6Lo2Cn6Lo2Cn3Lo3Cn2ScSmSkSo2ScCnSo4Sm2So10Cn3Cf2So2Cn12LoCn26LoCn19LoCn",
  "2LoCn15Lo2Cn14Lo34Cn123Lo5Cn3Po4Cn45No3Cn9So53Nl4No17So2No3SoCn13So3CnSo47Cn45SoMn130Cn29Lo3Cn",
  "49Lo15CnMn27No4Cn32Lo4No9Cn20LoNl8LoNl5Cn38Lo5Mn5Cn30LoCnPo36Lo4Cn8LoPo5Nl42Cn40Lu40Ll78Lo2Cn",
  "10Nd6Cn36Lu4Cn36Ll4Cn40Lo8Cn52Lo11CnPo11LuCn15LuCn7LuCn2LuCn11LlCn15LlCn7LlCn2Ll3Cn52Lo12Cn",
  "311Lo9Cn22Lo10Cn8Lo24Cn6LmCn42LmCn9Lm69Cn6Lo2CnLoCn44LoCn2Lo3CnLo2Cn23LoCnPo8No23Lo2So7No31Lo",
  "8Cn9No48Cn19LoCn2Lo5Cn5No22Lo6No3CnPo26Lo5CnPo64Cn56Lo4Cn2No2Lo16No2Cn46NoLo3MnCn2Mn5Cn4Mn4Lo",
  "Cn3LoCn29Lo2Cn3Mn4CnMn9No7Cn9Po7Cn29Lo2NoPo29Lo3No32Cn8LoSo28Lo2Mn4Cn5No7Po9Cn54Lo3Cn7Po22Lo",
  "2Cn8No19Lo5Cn8No18Lo7Cn4Po12Cn7No80Cn73Lo55Cn51Lu13Cn51Ll7Cn6No36Lo4Mn8Cn10Nd6Cn10Nd4LoLmLo",
  "22Lu3Cn5MnPdLm22Ll8Cn2Sm208Cn31NoCn42LoCn2MnPd2Cn2Lo16Cn3Lo55Cn4Mn29Lo10NoLo8Cn22Lo11Mn4No5Po",
  "22Cn18Lo4Mn4Po38Cn21Lo7No20Cn23Lo9CnMcMnMc53Lo15Mn7Po4Cn20No10NdMn2Lo2MnLo9Cn3MnMc45Lo3Mc4Mn",
  "2Mc2Mn2PoCf4PoMn10CnCf2Cn25Lo7Cn10Nd6Cn3Mn36Lo5MnMc8MnCn10Nd4PoLo2McLo8Cn35LoMn2PoLo9Cn2MnMc",
  "48Lo3Mc9Mn2Mc4Lo4Po4MnPoMcMn10NdLoPoLo3PoCn20No11Cn18LoCn25Lo3Mc3Mn2McMnMc2Mn6PoMn2LoMn62Cn7Lo",
  "CnLoCn4LoCn15LoCn10LoPo6Cn47LoMn3Mc8Mn5Cn10Nd6Cn2Mn2McCn8Lo2Cn2Lo2Cn22LoCn7LoCn2LoCn5LoCn2MnLo",
  "2McMn4Mc2Cn2Mc2Cn3Mc2CnLo6CnMc5Cn5Lo2Mc2Cn7Mn3Cn5Mn11Cn10LoCnLo2CnLoCn38LoCnLo3Mc6MnCnMc2CnMc",
  "Cn4McCn2McMnMcMnLoMnLo2PoCn2Po8Cn2Mn29Cn53Lo3Mc8Mn2Mc3MnMcMn4Lo5Po10Nd2PoCnPoMn3Lo30Cn48Lo3Mc",
  "6MnMcMn4Mc2MnMc2Mn2LoPoLo8Cn10Nd166Cn47Lo3Mc4Mn2Cn4Mc2MnMc2Mn23Po4Lo2Mn34Cn48Lo3Mc8Mn2McMnMc",
  "2Mn3PoLo11Cn10Nd6Cn13Po19Cn43LoMnMcMn2Mc6MnMcMnLoPo6Cn10Nd6Cn20Nd28Cn27Lo2CnMnMcMn2Mc4MnMc5Mn",
  "4Cn10Nd2No3PoSo7Lo185Cn44Lo3Mc9MnMc2MnPo100Cn32Lu32Ll10Nd9No12Cn8Lo2CnLo2Cn8LoCn2LoCn24Lo6McCn",
  "2Mc2Cn2MnMcMnLoMcLoMcMn3Po9Cn10Nd70Cn8Lo2Cn39Lo3Mc4Mn2Cn2Mn4McMnLoPoLoMc27CnLo10Mn40Lo6MnMcLo",
  "4Mn8PoMn8CnLo6Mn2Mc3Mn46Lo13MnMc2Mn3PoLo5Po13Cn73Lo7Cn10Po182Cn33LoPo14Cn10Nd6Cn9LoCn37LoMc7Mn",
  "Cn6MnMcMnLo5Po10Cn10Nd19No3Cn2Po30Lo2Cn22MnCnMc7MnMc2MnMc2Mn73Cn7LoCn2LoCn38Lo6Mn3CnMnCn2MnCn",
  "7MnLoMn8Cn10Nd6Cn6LoCn2LoCn32Lo5McCn2MnCn2McMnMcMnLo7Cn10Nd310Cn19Lo2Mn2Mc2Po7Cn2MnLoMc13LoCn",
  "34Lo2Mc5Mn3Cn2McMnMcMn13Po10NdMn85CnLo15Cn21No8So4Sc17So13CnPo922Lo102Cn111NlCn5Po11Cn196Lo",
  "2636Cn97Lo2Po13Cn1072Lo16CfMn6Lo15Mn10Cn3995Lo5Cn583Lo6841Cn30Lo12Mn3Mc3Mn10Nd1734Cn569Lo7Cn",
  "31LoCn10Nd4Cn2Po79LoCn10Nd6Cn30Lo2Cn5MnPo10Cn48Lo7Mn5Po4So4LmPoSo10Cn10NdCn7NoCn21Lo5Cn19Lo",
  "432Cn3Lm40Lo2Lm3Po10Nd198Cn32Lu32Ll23No4Po101Cn75Lo4CnMnLo55Mc7Cn4Mn13Lm64Cn2LmPoLmMn11Cn2Mc",
  "14Cn6136Lo8Cn1238Lo41Cn10Lo8935Cn4LmCn7LmCn2LmCn291Lo15CnLo29Cn3Lo2CnLo14Cn4Lo8Cn396Lo2308Cn",
  "107Lo5Cn13Lo3Cn9Lo7Cn10Lo2CnSo2MnPo4Cf3932Cn240So10Nd6Cn436So76Cn46Mn2Cn23Mn9Cn116So60Cn246So",
  "10Cn39So2Cn60So2Mc3Mn3So6Mc8Cf8Mn2So7Mn30So4Mn61So21Cn66So3MnSo122Cn20No12Cn20No12Cn87So9Cn",
  "25No135Cn26Lu26Ll26Lu7LlCn18Ll26Lu26LlLuCn2Lu2CnLu2Cn2Lu2Cn4LuCn8Lu4LlCnLlCn7LlCn11Ll26Lu26Ll",
  "2LuCn4Lu2Cn8LuCn7LuCn26Ll2LuCn4LuCn5LuCnLu3Cn7LuCn26Ll26Lu26Ll26Lu26Ll26Lu26Ll26Lu26Ll26Lu26Ll",
  "26Lu28Ll2Cn25LuSm25LlSm6Ll25LuSm25LlSm6Ll25LuSm25LlSm6Ll25LuSm25LlSm6Ll25LuSm25LlSm6LlLuLl2Cn",
  "50Nd512So55Mn4So50Mn8SoMn14SoMn2So5Po15Cn5MnCn15Mn1104Cn10LlLo20Ll6Cn6Ll213Cn7MnCn17Mn2Cn7MnCn",
  "2MnCn5Mn5Cn62Lm33CnMn112Cn45Lo3Cn7Mn7Lm2Cn10Nd4CnLoSo320Cn30LoMn17Cn44Lo4Mn10Nd5CnSc464Cn27Lo",
  "Lm4Mn10Nd214Cn30Lo2MnLo10Nd4CnPo480Cn7LoCn4LoCn2LoCn15LoCn197Lo2Cn9No7Mn41Cn34Lu34Ll7MnLm4Cn",
  "10Nd4Cn2Po785Cn59NoSo3NoSc4No76Cn45NoSo15No194Cn4LoCn27LoCn2LoCnLo2CnLoCn10LoCn4LoCnLoCnLo6Cn",
  "Lo4CnLoCnLoCnLoCn3LoCn2LoCnLo2CnLoCnLoCnLoCnLoCnLoCn2LoCnLo2Cn4LoCn7LoCn4LoCn4LoCnLoCn10LoCn",
  "17Lo5Cn3LoCn5LoCn17Lo52Cn2Sm270Cn44So4Cn100So12Cn15So2Cn15SoCn15SoCn37So10Cn13No161So56Cn29So",
  "13Cn44So4Cn9So7Cn2So14Cn6So154Cn251So5Sk728So4Cn17So3Cn13So3Cn119So4Cn95So6Cn12So4CnSo15Cn12So",
  "4Cn56So8Cn10So6Cn40So8Cn30So2Cn12So4Cn2So62Cn340So12Cn14So2Cn13So3Cn10So5Cn56So7Cn15So2Cn11So",
  "6Cn9So7Cn147SoCn92So10Nd1030Cn42720Lo32Cn4154Lo6Cn222Lo2Cn5762Lo14Cn7473Lo15Cn622Lo2466Cn542Lo",
  "1506Cn4939Lo5Cn4192Lo711761CnCf30Cn96Cf128Cn240Mn65040Cn65534Co2Cn65534Co"]

/-! ## Categories -/

/-- The ranges that a run text lists, from a code point on, each with the letters of its category.
`count` is the length that has been read so far. -/
def readRuns (start count : Nat) : List Char → List ((Nat × Nat) × List Char)
  | [] => []
  | [_] => []
  | c :: d :: rest =>
    if c.isDigit then readRuns start (count * 10 + (c.toNat - '0'.toNat)) (d :: rest)
    else
      let next := start + max count 1
      ((start, next - 1), [c, d]) :: readRuns next 0 rest

/-- All ranges, each with the letters of its category. -/
def categoryRanges : List ((Nat × Nat) × List Char) :=
  readRuns 0 0 (categoryRuns.flatMap String.toList)

/-- The characters whose category has some first letters. -/
def assignedTo (letters : List Char) : CharSet :=
  .ofRanges ((categoryRanges.filter fun r => letters.isPrefixOf r.2).map (·.1))

/-- The code points that are assigned to characters or reserved for good. -/
def unassigned : CharSet :=
  (assignedTo ['C', 'n']).union (CharSet.ofRanges (categoryRanges.map (·.1))).compl

/-- The characters of a category, given by its letters. -/
def ofCategory (letters : String) : CharSet :=
  if letters == "Cn" then unassigned else assignedTo letters.toList

/-- The characters of the categories that start with a letter. -/
def ofMajor (letter : Char) : CharSet :=
  if letter == 'C' then (assignedTo ['C']).union unassigned else assignedTo [letter]

end PackQuery.Unicode
